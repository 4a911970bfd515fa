import StorageInventory.Controller

/-!
# Health

The verdict on each record of a report. A verdict is the list of causes against the record, and a
record is healthy when there is none. The causes of drives go into the verdict of their volume; a
controller answers for its own uncorrectable bus errors alone.
-/

namespace StorageInventory

/-- The two states of health. -/
inductive HealthStatus
  | healthy
  | unhealthy
  deriving DecidableEq, Repr

namespace HealthStatus

/-- The name of a state. -/
def name : HealthStatus → String
  | healthy => "Healthy"
  | unhealthy => "Unhealthy"

end HealthStatus

/-- A verdict on a record, one line for each cause against it. -/
structure Verdict where
  causes : List String := []
  deriving DecidableEq, Repr

namespace Verdict

/-- Whether there is no cause against the record. -/
def isHealthy (v : Verdict) : Bool := v.causes.isEmpty

/-- The state that the causes amount to. -/
def status (v : Verdict) : HealthStatus := if v.isHealthy then .healthy else .unhealthy

/-- The causes behind a name that tells whose they are. -/
def named (name : String) (v : Verdict) : List String :=
  v.causes.map fun cause => s!"{name}: {cause}"

end Verdict

/-- A physical drive with more errors than this is unhealthy. -/
def errorThreshold : Nat := 5

namespace PhysicalDrive

/-- The place and model of a drive, as its causes begin. -/
def label (d : PhysicalDrive) : String := s!"[{d.position}] {d.model}"

/-- Too many errors and a status that is not good are causes against a drive. -/
def verdict (d : PhysicalDrive) : Verdict :=
  let errors :=
    if errorThreshold < d.errorCount then
      [s!"{d.label}: {d.errorCount} errors exceed threshold {errorThreshold}"]
    else []
  let status :=
    if d.family.goodDriveStatus d.status then []
    else [d.label ++ ": status " ++ Text.trim d.status]
  { causes := errors ++ status }

end PhysicalDrive

namespace Volume

/-- Being degraded and the causes against its members are causes against a volume. -/
def verdict (v : Volume) : Verdict :=
  let degraded := match v.data with
    | some data =>
      if data.degraded then [s!"{v.name}: {data.level.name} volume degraded ({data.status})"]
      else []
    | none => []
  { causes := degraded ++ v.members.flatMap fun d => d.verdict.named v.name }

end Volume

namespace ExposedDrive

/-- The causes against the drive, behind the kernel's name. -/
def verdict (d : ExposedDrive) : Verdict := { causes := d.drive.verdict.named d.kernel.name }

end ExposedDrive

namespace RaidController

/-- Uncorrectable bus errors are causes against a controller. -/
def verdict (c : RaidController) : Verdict :=
  { causes := c.pci.uncorrectableErrors.map ("[ue] " ++ ·) }

end RaidController

namespace DirectDrive

/-- Every error record is a cause against a direct drive. -/
def verdict (d : DirectDrive) : Verdict :=
  { causes := d.errorRecords.map fun r => d.kernel.name ++ ": " ++ r.text }

end DirectDrive

end StorageInventory
