import StorageInventory.Number.Numeral
import StorageInventory.Text.Search
import StorageInventory.Trace

/-!
# Options and choices

The options of the command line and the choices that they stand for. An environment variable may
give a choice too, with the same text as its value.
-/

namespace StorageInventory.CommandLine

/-- Which notes of a run are shown. -/
inductive Verbosity
  | trace
  | debug
  | info
  | warn
  | error
  deriving DecidableEq, Repr

namespace Verbosity

/-- All levels of verbosity, the one with the most notes first. -/
def all : List Verbosity := [trace, debug, info, warn, error]

/-- The name of a level of verbosity. -/
def name : Verbosity → String
  | trace => "trace"
  | debug => "debug"
  | info => "info"
  | warn => "warn"
  | error => "error"

/-- The level of verbosity with a name, in letters of either case. -/
def ofName? (s : String) : Option Verbosity := all.find? fun v => Text.sameLetters v.name s

/-- Whether notes of a level are shown. -/
def shows : Verbosity → Level → Bool
  | trace, _ | debug, _ => true
  | info, level => level != .debug
  | warn, level => level == .warn
  | error, _ => false

end Verbosity

/-- An option of the command line. -/
inductive Opt
  | config
  | sysfsRoot
  | noRaidcli
  | toolTimeout
  | parallel
  | logLevel
  | logJson
  | json
  deriving DecidableEq, Repr

namespace Opt

/-- The options of the program and of every command. -/
def common : List Opt := [config, sysfsRoot, noRaidcli, toolTimeout, parallel, logLevel, logJson]

/-- The name of an option. -/
def name : Opt → String
  | config => "config"
  | sysfsRoot => "sysfs-root"
  | noRaidcli => "no-raidcli"
  | toolTimeout => "tool-timeout"
  | parallel => "parallel"
  | logLevel => "log-level"
  | logJson => "log-json"
  | json => "json"

/-- The environment variable of an option. -/
def envName? : Opt → Option String
  | config => some "HWINV_CONFIG"
  | sysfsRoot => some "HWINV_SYSFS_ROOT"
  | noRaidcli => some "HWINV_NO_RAIDCLI"
  | toolTimeout => some "HWINV_TOOL_TIMEOUT"
  | parallel => some "HWINV_PARALLEL"
  | logLevel => some "LOG_LEVEL"
  | logJson => some "LOG_JSON"
  | json => none

/-- What the value of an option is called; none for an option without a value. -/
def valueName? : Opt → Option String
  | config => some "CONFIG"
  | sysfsRoot => some "SYSFS_ROOT"
  | toolTimeout => some "TOOL_TIMEOUT"
  | logLevel => some "LOG_LEVEL"
  | noRaidcli | parallel | logJson | json => none

end Opt

/-- What is chosen with an option. -/
inductive Choice
  | config (path : String)
  | sysfsRoot (path : String)
  | noRaidcli (on : Bool)
  | toolTimeout (seconds : UInt64)
  | parallel (on : Bool)
  | logLevel (verbosity : Verbosity)
  | logJson (on : Bool)
  | json (on : Bool)
  deriving DecidableEq, Repr

namespace Choice

/-- The option of a choice. -/
def opt : Choice → Opt
  | config _ => .config
  | sysfsRoot _ => .sysfsRoot
  | noRaidcli _ => .noRaidcli
  | toolTimeout _ => .toolTimeout
  | parallel _ => .parallel
  | logLevel _ => .logLevel
  | logJson _ => .logJson
  | json _ => .json

/-- Reads a path, which must not be empty. -/
def path? (s : String) : Option String := if s.isEmpty then none else some s

/-- Reads a truth value. -/
def truth? (s : String) : Option Bool :=
  if s = "true" then some true else if s = "false" then some false else none

/-- The choice that the value of an option stands for. -/
def ofValue? (o : Opt) (value : String) : Option Choice :=
  match o with
  | .config => (path? value).map config
  | .sysfsRoot => (path? value).map sysfsRoot
  | .noRaidcli => (truth? value).map noRaidcli
  | .toolTimeout => (Numeral.word64? value).map toolTimeout
  | .parallel => (truth? value).map parallel
  | .logLevel => (Verbosity.ofName? value).map logLevel
  | .logJson => (truth? value).map logJson
  | .json => (truth? value).map json

end Choice

/-- The choices of a command line, the first of an option being the one that counts. -/
abbrev Choices := List Choice

namespace Choices

/-- Whether an option is chosen. -/
def has (cs : Choices) (o : Opt) : Bool := cs.any (·.opt == o)

/-- Adds the choice of an option that is given for the first time. -/
def add? (cs : Choices) (o : Opt) (value : String) : Option Choices :=
  if cs.has o then none else (Choice.ofValue? o value).map fun c => cs ++ [c]

/-- The choices that environment variables make for options that are not chosen. -/
def ofEnvironment? (cs : Choices) (environment : List (String × String)) : Option Choices :=
  (Opt.common.filter (!cs.has ·)).foldlM (fun made o =>
    match o.envName?.bind (List.lookup · environment) with
    | some value => made.add? o value
    | none => some made) []

/-- The settings file. -/
def config? (cs : Choices) : Option String :=
  cs.findSome? fun | .config path => some path | _ => none

/-- The root of the kernel's device tree. -/
def sysfsRoot? (cs : Choices) : Option String :=
  cs.findSome? fun | .sysfsRoot path => some path | _ => none

/-- Whether vendor tools are not to be run. -/
def noRaidcli (cs : Choices) : Bool :=
  (cs.findSome? fun | .noRaidcli on => some on | _ => none).getD false

/-- How many seconds a tool may run. -/
def toolTimeout? (cs : Choices) : Option UInt64 :=
  cs.findSome? fun | .toolTimeout seconds => some seconds | _ => none

/-- Whether controllers may be read at the same time. -/
def parallel (cs : Choices) : Bool :=
  (cs.findSome? fun | .parallel on => some on | _ => none).getD false

/-- Which notes are shown. -/
def verbosity (cs : Choices) : Verbosity :=
  (cs.findSome? fun | .logLevel v => some v | _ => none).getD .warn

/-- Whether notes are shown as JSON. -/
def logJson (cs : Choices) : Bool :=
  (cs.findSome? fun | .logJson on => some on | _ => none).getD false

/-- Whether a report is printed as JSON. -/
def json (cs : Choices) : Bool :=
  (cs.findSome? fun | .json on => some on | _ => none).getD false

end Choices

end StorageInventory.CommandLine
