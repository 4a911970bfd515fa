import StorageInventory.Health
import StorageInventory.Size
import StorageInventory.Table

/-!
# Diagnosis

The health of a report as a list of rows: one group of rows for each record that has a verdict, in
the order of the report. A group begins with a row of its own, and further causes continue it.
-/

namespace StorageInventory

/-- A row of the diagnosis. -/
structure HealthRow where
  category : String
  status : HealthStatus
  detail : String
  /-- Whether the row continues the one above. -/
  continued : Bool := false
  deriving DecidableEq, Repr

namespace HealthRow

/-- The word for the status. -/
def statusWord (r : HealthRow) : String :=
  match r.status with
  | .healthy => "healthy"
  | .unhealthy => "UNHEALTHY"

/-- Rows that continue one above, one for each cause. -/
def continuing (category : String) (verdict : Verdict) (causes : List String) : List HealthRow :=
  causes.map fun detail => { category, status := verdict.status, detail, continued := true }

/-- The causes of a verdict, a row for each; a summary when there is none. -/
def ofVerdict (category : String) (verdict : Verdict) (summary : String) : List HealthRow :=
  match verdict.causes with
  | [] => [{ category, status := verdict.status, detail := summary }]
  | first :: more =>
    { category, status := verdict.status, detail := first } :: continuing category verdict more

/-- A summary, and a row for each cause of a verdict behind it. -/
def withCauses (category : String) (verdict : Verdict) (summary : String) : List HealthRow :=
  { category, status := verdict.status, detail := summary } ::
    continuing category verdict verdict.causes

/-- The cells of a row; one that continues has only its detail. -/
def cells (r : HealthRow) : List String :=
  if r.continued then ["", "", r.detail] else [r.category, r.statusWord, r.detail]

end HealthRow

/-- The rows of a volume. -/
def Volume.healthRows (v : Volume) : List HealthRow :=
  HealthRow.withCauses "RAID Volume" v.verdict <|
    if v.isEnriched then s!"{v.name}: {v.levelName}, {v.status}" else s!"{v.name}: no RAID data"

/-- The rows of an exposed drive. -/
def ExposedDrive.healthRows (d : ExposedDrive) : List HealthRow :=
  HealthRow.withCauses "Pass-Through Drive" d.verdict
    s!"{d.kernel.name}: {d.drive.model}, {d.drive.status}"

/-- The rows of an unconfigured drive. -/
def PhysicalDrive.healthRows (d : PhysicalDrive) : List HealthRow :=
  HealthRow.withCauses "Unconfigured Drive" d.verdict s!"{d.position}: {d.model}, {d.status}"

/-- The rows of a direct drive. -/
def DirectDrive.healthRows (d : DirectDrive) : List HealthRow :=
  HealthRow.ofVerdict "SATA Drive" d.verdict (d.model ++ " " ++ Size.shown d.kernel.size)

/-- The rows of a RAID controller: its own, and those of its volumes and drives. -/
def RaidController.healthRows (c : RaidController) : List HealthRow :=
  HealthRow.ofVerdict "RAID Card" c.verdict c.pci.longName ++ c.volumes.flatMap Volume.healthRows ++
    c.exposedDrives.flatMap ExposedDrive.healthRows ++
    c.unconfiguredDrives.flatMap PhysicalDrive.healthRows

namespace Report

/-- The rows of a report. -/
def healthRows (r : Report) : List HealthRow :=
  r.raidControllers.flatMap RaidController.healthRows ++
    r.directControllers.flatMap fun c => c.drives.flatMap DirectDrive.healthRows

/-- Whether no row is unhealthy. -/
def isHealthy (r : Report) : Bool := r.healthRows.all (·.status == .healthy)

/-- The diagnosis as a table. -/
def healthTable (r : Report) : Table :=
  .ofRows ["category", "stat", "detail"] (r.healthRows.map HealthRow.cells)

end Report

end StorageInventory
