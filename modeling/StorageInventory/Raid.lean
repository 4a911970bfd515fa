import StorageInventory.Text.Search

/-!
# RAID vocabulary

The families of RAID controllers, the levels of a volume and the state of a backup battery, with
the names a report gives them and the status texts that a family counts as good.
-/

namespace StorageInventory

/-- A family of RAID controllers, one for each vendor tool. -/
inductive RaidFamily
  | megaRaid
  | sasIr
  | smartArray
  deriving DecidableEq, Repr

namespace RaidFamily

/-- The name of a family in messages and text reports. -/
def name : RaidFamily → String
  | megaRaid => "megaraid"
  | sasIr => "sas-ir"
  | smartArray => "smart-array"

/-- The name of the family's tool. -/
def toolName : RaidFamily → String
  | megaRaid => "megacli"
  | sasIr => "sas3ircu"
  | smartArray => "hpacucli"

/-- Whether a status text means that a volume is fine. -/
def goodVolumeStatus (family : RaidFamily) (status : String) : Bool :=
  let status := Text.trim status
  match family with
  | megaRaid => status == "Optimal"
  | sasIr => Text.endsWith status "(OKY)"
  | smartArray => status == "OK"

/-- Whether a status text means that a drive is fine. No text at all means that the tool did not
report one, and is accepted. -/
def goodDriveStatus (family : RaidFamily) (status : String) : Bool :=
  let status := Text.trim status
  status.isEmpty || match family with
    | megaRaid =>
      status == "Optimal" ||
        ["Online", "JBOD", "Unconfigured(good)", "Hotspare"].any (Text.beginsWith status ·)
    | sasIr => ["(OKY)", "(OPT)", "(RDY)", "(HSP)"].any (Text.endsWith status ·)
    | smartArray => status == "OK"

end RaidFamily

/-- The level of a volume. -/
inductive RaidLevel
  | raid0
  | raid1
  | raid5
  | raid6
  | raid01
  | raid10
  | unknown
  deriving DecidableEq, Repr

namespace RaidLevel

/-- The name of a level. -/
def name : RaidLevel → String
  | raid0 => "RAID 0"
  | raid1 => "RAID 1"
  | raid5 => "RAID 5"
  | raid6 => "RAID 6"
  | raid01 => "RAID 0+1"
  | raid10 => "RAID 1+0"
  | unknown => "unknown"

/-- The level that a tool's table gives to its own name of it. -/
def ofTable (table : List (String × RaidLevel)) (text : String) : RaidLevel :=
  (table.lookup text).getD unknown

end RaidLevel

/-- Whether a controller has a battery or capacitor behind its cache. -/
inductive Battery
  | present
  | absent
  | unknown
  deriving DecidableEq, Repr

namespace Battery

/-- The name of a battery state. -/
def name : Battery → String
  | present => "present"
  | absent => "not present"
  | unknown => "unknown"

/-- The state that a tool reports, which may not speak of a battery at all. -/
def ofReported : Option Bool → Battery
  | some true => present
  | some false => absent
  | none => unknown

end Battery

/-- The policy a cache setting begins with, when it is a write policy. -/
def writePolicy (text : String) : String :=
  let first := match Text.piecesAt text ',' with
    | first :: _ => Text.trim first
    | [] => ""
  if Text.holds (Text.lower first) "write" then first else "unknown"

end StorageInventory
