import StorageInventory.CommandLine.Request
import StorageInventory.Text.Plain

/-!
# Help

The texts that tell how the program is used. A description stands on one line, unless the value of
a variable in it has more.
-/

namespace StorageInventory.CommandLine

/-- The name of the program. -/
def programName : String := "hwinv"

/-- The program's name and its version. -/
def versionText : String := programName ++ " 0.1.0\n"

/-- What the program does. -/
def purpose : String :=
  "Server storage inventory - reconciles kernel topology, RAID tool output and drive telemetry " ++
    "into one health-checked report"

namespace Command

/-- What a command does. -/
def purpose : Command → String
  | report => "Print the full inventory"
  | lsraid => "List physical drives behind RAID controllers"
  | lsdiag => "Check storage health"

end Command

namespace Opt

/-- What an option does. -/
def purpose : Opt → String
  | config => "YAML configuration file"
  | sysfsRoot => "Root of the sysfs tree"
  | noRaidcli => "Do not invoke vendor RAID tools"
  | toolTimeout => "Vendor tool timeout in seconds"
  | parallel => "Resolve controllers concurrently"
  | logLevel => "Log level"
  | logJson => "Output logs as JSON"
  | json => "Emit JSON instead of a text tree"

/-- An option as it is written. -/
def spelling (o : Opt) : String :=
  "--" ++ o.name ++ ((o.valueName?.map fun v => s!" <{v}>").getD "")

/-- What an option does, its variable with the value that it has, and the values to choose from. -/
def description (environment : List (String × String)) (o : Opt) : String :=
  let fromVariable := match o.envName? with
    | some name => s!" [env: {name}=" ++ (environment.lookup name).getD "" ++ "]"
    | none => ""
  let values := if o = logLevel then
      s!" [default: {Verbosity.warn.name}] [possible values: " ++
        ", ".intercalate (Verbosity.all.map Verbosity.name) ++ "]"
    else ""
  o.purpose ++ fromVariable ++ values

end Opt

namespace Topic

/-- Two columns: names, and what they mean. What has more lines than one stays in its column. -/
def columns (rows : List (String × String)) : List String :=
  let width := (rows.map (·.1.length)).foldl max 0 + 2
  let spaces (n : Nat) := String.ofList (List.replicate n ' ')
  rows.map fun (name, meaning) =>
    name ++ spaces (width - name.length) ++
      ("\n" ++ spaces width).intercalate (Text.piecesAt meaning '\n')

/-- The rows of options, with the ones for help and for the version behind them. -/
def optionRows (environment : List (String × String)) (opts : List Opt) (versioned : Bool) :
    List (String × String) :=
  opts.map (fun o => ("      " ++ o.spelling, o.description environment)) ++
    [("  -h, --help", "Print help")] ++
    (if versioned then [("  -V, --version", "Print version")] else [])

/-- What the command for help does. -/
def helpPurpose : String := "Print this message or the help of the given subcommand(s)"

/-- The lines of the help about a topic. -/
def lines (environment : List (String × String)) : Topic → List String
  | program =>
    [purpose, "", s!"Usage: {programName} [OPTIONS] <COMMAND>", "", "Commands:"] ++
      columns (Command.all.map (fun c => ("  " ++ c.name, c.purpose)) ++
        [("  help", helpPurpose)]) ++
      ["", "Options:"] ++ columns (optionRows environment Opt.common true)
  | command c =>
    [c.purpose, "", s!"Usage: {programName} {c.name} [OPTIONS]", "", "Options:"] ++
      columns (optionRows environment c.opts false)
  | help =>
    [helpPurpose, "", s!"Usage: {programName} help [COMMAND]...", "", "Arguments:"] ++
      columns [("  [COMMAND]...", "Print help for the subcommand(s)")]

/-- The help about a topic, each line ended. -/
def text (environment : List (String × String)) (topic : Topic) : String :=
  String.join ((topic.lines environment).map (· ++ "\n"))

end Topic

end StorageInventory.CommandLine
