import StorageInventory.Failure

/-!
# Settings

The settings of an inventory run. Each has a default that fits a common installation.
-/

namespace StorageInventory

/-- Where the tool of each family is looked for, in order. -/
structure ToolPaths where
  megacli : List String :=
    ["/opt/MegaRAID/MegaCli/MegaCli64", "/opt/MegaRAID/MegaCli/MegaCli", "/usr/sbin/megacli"]
  sas3ircu : List String := ["/usr/sbin/sas3ircu", "/usr/local/sbin/sas3ircu"]
  hpacucli : List String := ["/usr/sbin/hpssacli", "/usr/sbin/ssacli", "/usr/sbin/hpacucli"]
  deriving DecidableEq, Repr

namespace ToolPaths

/-- Where the tool of a family is looked for. -/
def of (paths : ToolPaths) : RaidFamily → List String
  | .megaRaid => paths.megacli
  | .sasIr => paths.sas3ircu
  | .smartArray => paths.hpacucli

end ToolPaths

/-- The settings of an inventory run. -/
structure Settings where
  /-- The root of the kernel's device tree. -/
  sysfsRoot : String := "/sys"
  /-- How long a tool may run, in seconds. -/
  toolTimeoutSecs : UInt64 := 30
  /-- Whether vendor tools are run at all. -/
  raidcliEnabled : Bool := true
  /-- Whether controllers may be read at the same time. -/
  parallel : Bool := false
  toolPaths : ToolPaths := {}
  deriving DecidableEq, Repr

namespace Settings

/-- How long a tool may run. -/
def toolTimeout (s : Settings) : Duration := .ofSeconds s.toolTimeoutSecs.toNat

/-- Refuses settings with which every run would fail. -/
def validate (s : Settings) : Except SettingError Settings :=
  if s.toolTimeoutSecs = 0 then .error .zeroTimeout
  else if s.sysfsRoot.isEmpty then .error .emptyRoot
  else .ok s

end Settings

end StorageInventory
