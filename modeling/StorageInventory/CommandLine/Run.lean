import StorageInventory.CommandLine.Help
import StorageInventory.Report.Diagnosis
import StorageInventory.Report.Document
import StorageInventory.Report.Drives
import StorageInventory.Report.Outline
import StorageInventory.Scan
import StorageInventory.Settings.Document
import StorageInventory.Snapshot

/-!
# Runs of the program

What the program prints on a machine, and how it ends. It ends with 1 when there is no report, and
when a diagnosis finds anything unhealthy.
-/

namespace StorageInventory.CommandLine

/-- Why there is no report. -/
inductive Stop
  /-- The settings file cannot be used. -/
  | unusableConfig (path : String) (cause : Failure)
  /-- The settings make no sense together. -/
  | badSettings (cause : SettingError)
  /-- The machine cannot be read. -/
  | failedScan (cause : Failure)
  deriving DecidableEq, Repr

namespace Stop

/-- The message for a stop. -/
def message : Stop → String
  | unusableConfig path _ => "failed to load " ++ path
  | badSettings _ => "invalid configuration"
  | failedScan _ => "storage scan failed"

/-- The failure behind a stop. -/
def cause : Stop → Failure
  | unusableConfig _ cause => cause
  | badSettings cause => .setting cause
  | failedScan cause => cause

end Stop

/-- How a run ends. -/
structure Outcome where
  stdout : String := ""
  exit : UInt8 := 0
  stop : Option Stop := none
  deriving DecidableEq, Repr

namespace Outcome

/-- A run without a report. -/
def stopped (stop : Stop) : Outcome := { exit := 1, stop := some stop }

end Outcome

namespace Choices

/-- The settings with what is chosen in their place. -/
def override (cs : Choices) (s : Settings) : Settings :=
  { s with
    sysfsRoot := cs.sysfsRoot?.getD s.sysfsRoot
    toolTimeoutSecs := cs.toolTimeout?.getD s.toolTimeoutSecs
    raidcliEnabled := s.raidcliEnabled && !cs.noRaidcli
    parallel := s.parallel || cs.parallel }

/-- The settings of a run: those of the file, if one is chosen, and the choices. -/
def settings (cs : Choices) (t : FileTree) : Except Stop Settings := do
  let s ← match cs.config? with
    | some path => (Settings.load t path).mapError (.unusableConfig path)
    | none => .ok {}
  (cs.override s).validate.mapError .badSettings

end Choices

namespace Command

/-- What a command prints about a report, and whether the report fails the program. -/
def outcome (command : Command) (json : Bool) (r : Report) : Outcome :=
  match command with
  | report => { stdout := if json then r.document ++ "\n" else r.outline }
  | lsraid => { stdout := if r.driveTable.isEmpty then "" else r.driveTable.text }
  | lsdiag => { stdout := r.healthTable.text, exit := if r.isHealthy then 0 else 1 }

/-- Runs a command on a machine. -/
def run (command : Command) (choices : Choices) (machine : Snapshot) : Traced Outcome :=
  match choices.settings machine.tree with
  | .error stop => pure (.stopped stop)
  | .ok settings => do
    let scanner := Scanner.ofSettings machine.tree settings { component := "scanner" }
    match ← (scanner.scan machine.tree machine.hostname machine.takenAt).run with
    | .error failure => return .stopped (.failedScan failure)
    | .ok r => return command.outcome choices.json r

end Command

namespace Request

/-- Whether a request is about a machine. -/
def needsMachine : Request → Bool
  | run _ _ => true
  | _ => false

/-- Does what is asked for. -/
def perform (request : Request) (environment : List (String × String)) (machine : Snapshot) :
    Traced Outcome :=
  match request with
  | run command choices => command.run choices machine
  | help topic => pure { stdout := Text.plain (topic.text environment) }
  | version => pure { stdout := versionText }
  | misuse => pure { exit := 2 }

/-- The choices of a request. -/
def choices : Request → Choices
  | run _ choices => choices
  | _ => []

end Request

end StorageInventory.CommandLine
