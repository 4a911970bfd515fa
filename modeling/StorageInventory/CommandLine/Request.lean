import StorageInventory.CommandLine.Choice

/-!
# Requests

What the arguments of the command line ask for. Options may stand in front of the command and
behind it; those behind it win, and both win over the environment.
-/

namespace StorageInventory.CommandLine

/-- A command of the program. -/
inductive Command
  | report
  | lsraid
  | lsdiag
  deriving DecidableEq, Repr

namespace Command

/-- All commands. -/
def all : List Command := [report, lsraid, lsdiag]

/-- The name of a command. -/
def name : Command → String
  | report => "report"
  | lsraid => "lsraid"
  | lsdiag => "lsdiag"

/-- The options behind a command. -/
def opts : Command → List Opt
  | report => .json :: Opt.common
  | lsraid | lsdiag => Opt.common

end Command

/-- What help is asked about. -/
inductive Topic
  | program
  | command (c : Command)
  | help
  deriving DecidableEq, Repr

/-- What is asked for. -/
inductive Request
  | run (command : Command) (choices : Choices)
  | help (topic : Topic)
  | version
  /-- The arguments make no sense. -/
  | misuse
  deriving DecidableEq, Repr

/-- The options in front of the command, or those behind it. -/
structure Part where
  /-- The command in front; none before it. -/
  command : Option Command
  choices : Choices := []
  /-- The option last given and its value, if the value was an argument of its own. It is looked at
  only when more options follow or the part ends. -/
  last : Option (Opt × Option String) := none

namespace Part

/-- The options that the part may have. -/
def opts (p : Part) : List Opt := (p.command.map Command.opts).getD Opt.common

/-- What help in the part is about. -/
def topic (p : Part) : Topic := (p.command.map Topic.command).getD .program

/-- Whether the next argument is the value of an option. -/
def awaits (p : Part) : Bool := p.last.any (·.2.isNone)

/-- Looks at the option last given. -/
def settle (p : Part) : Except Request Part :=
  match p.last with
  | none => .ok p
  | some (o, value) =>
    match value.bind (p.choices.add? o) with
    | some choices => .ok { p with choices, last := none }
    | none => .error .misuse

/-- Takes an option and its value. -/
def choose (p : Part) (o : Opt) (value : String) : Except Request Part := do
  let p ← p.settle
  match p.choices.add? o value with
  | some choices => return { p with choices }
  | none => throw .misuse

/-- Takes an argument behind two dashes. -/
def long (p : Part) (body : String) : Except Request Part := do
  let (name, value) := match Text.cut body "=" with
    | some (name, value) => (name, some value)
    | none => (body, none)
  match p.opts.find? (·.name == name), value with
  | some o, some value => if o.valueName?.isSome then p.choose o value else throw .misuse
  | some o, none =>
    if o.valueName?.isSome then do
      let p ← p.settle
      return { p with last := some (o, none) }
    else p.choose o "true"
  | none, some _ => throw .misuse
  | none, none => do
    let p ← if name = "help" ∨ (name = "version" ∧ p.command.isNone) then p.settle
      else throw .misuse
    throw (if name = "help" then .help p.topic else .version)

/-- Takes an argument behind one dash; only its first letter matters, as no letter has a value. -/
def short (p : Part) (body : String) : Except Request Part := do
  match body.toList with
  | 'h' :: _ => let p ← p.settle; throw (.help p.topic)
  | 'V' :: _ => if p.command.isNone then do let _ ← p.settle; throw .version else throw .misuse
  | _ => throw .misuse

/-- The topic that words behind the word `help` name. -/
def helpTopic : List String → Request
  | [] => .help .program
  | [word] =>
    match Command.all.find? (·.name == word) with
    | some c => .help (.command c)
    | none => if word = "help" then .help .help else .misuse
  | _ => .misuse

/-- Takes an argument that is no command. -/
def take (p : Part) (arg : String) : Except Request Part :=
  match Text.after? arg "--", Text.after? arg "-" with
  | some body, _ => p.long body
  | none, some "" | none, none =>
    match p.last with
    | some (o, none) => .ok { p with last := some (o, some arg) }
    | _ => .error .misuse
  | none, some body => p.short body

/-- Takes arguments up to the command or to the end, and gives the command and the arguments behind
it. Nothing may stand behind two dashes alone. -/
def read (p : Part) : List String → Except Request (Part × Option (Command × List String))
  | [] => .ok (p, none)
  | arg :: rest =>
    let command := if p.awaits || p.command.isSome then none else some arg
    match command.bind fun word => Command.all.find? (·.name == word) with
    | some c => .ok (p, some (c, rest))
    | none =>
      if command = some "help" then .error (helpTopic rest)
      else if arg = "--" then if rest.isEmpty then .ok (p, none) else .error .misuse
      else match p.take arg with
        | .ok p => p.read rest
        | .error r => .error r

/-- The choices of a part, and those that the environment makes for the other options. -/
def finish (p : Part) (environment : List (String × String)) :
    Except Request (Choices × Choices) := do
  let p ← p.settle
  match p.choices.ofEnvironment? environment with
  | some made => return (p.choices, made)
  | none => throw .misuse

end Part

namespace Request

/-- Reads both parts of the arguments. The environment must make sense for each of them. -/
def ofParts (arguments : List String) (environment : List (String × String)) :
    Except Request Request := do
  match ← Part.read { command := none } arguments with
  | (_, none) => throw .misuse
  | (front, some (command, rest)) => do
    let (back, _) ← Part.read { command := some command } rest
    let (behind, _) ← back.finish environment
    let (before, made) ← front.finish environment
    return .run command (behind ++ before ++ made)

/-- What the arguments ask for. -/
def ofArguments (arguments : List String) (environment : List (String × String)) : Request :=
  match ofParts arguments environment with
  | .ok request | .error request => request

end Request

end StorageInventory.CommandLine
