import StorageInventory.Logger

/-!
# Tools

Running the vendor tool of a RAID family. A runner is what commands answer, as a function of the
program and its arguments; a tool is the program of one family, when it is installed, together with
the runner.
-/

namespace StorageInventory

/-- The text of a command in messages. -/
def commandText (program : String) (args : List String) : String :=
  program ++ " " ++ " ".intercalate args

/-- What commands answer, and who is told of each before it runs. -/
structure Runner where
  run : String → List String → Except Failure String
  log : Logger := .silent "runner"

namespace Runner

/-- Runs a command. -/
def attempt (runner : Runner) (program : String) (args : List String) : Attempt String := do
  runner.log.debug ("running " ++ commandText program args)
  liftM (Traced.mk () [.command program args])
  Attempt.ofOutcome (runner.run program args)

end Runner

/-- The tool of a family, with the path of its program when it is installed. -/
structure Tool where
  family : RaidFamily
  program : Option String
  runner : Runner

namespace Tool

/-- Whether the tool is installed. -/
def isAvailable (tool : Tool) : Bool := tool.program.isSome

/-- Runs the tool; output without any text in it is a failure. -/
def run (tool : Tool) (args : List String) : Attempt String := do
  match tool.program with
  | none => throw (.toolUnavailable tool.family)
  | some program =>
    let output ← tool.runner.attempt program args
    if Text.isBlank output then throw (.unreadableOutput tool.family .blank) else return output

/-- The name of a family as a record shows it. -/
def familyText : RaidFamily → String
  | .megaRaid => "MegaRaid"
  | .sasIr => "SasIr"
  | .smartArray => "SmartArray"

/-- The tool in one line. -/
def text (tool : Tool) : String :=
  let program := match tool.program with
    | some program => "Some(" ++ Text.quoted program ++ ")"
    | none => "None"
  "ToolHandle \x7b family: " ++ familyText tool.family ++ ", binary: " ++ program ++ " \x7d"

end Tool

end StorageInventory
