import StorageInventory.Report.Diagnosis

/-!
# Verdicts and rows

When the verdict on a record is that it is healthy, said of the record's own fields, and how the
rows of a diagnosis carry verdicts to the report. Main statements: a group of rows tells its verdict
(`HealthRow.ofVerdict_tells`, `HealthRow.withCauses_tells`), and a RAID controller has healthy rows
alone when it has no uncorrectable error, no degraded volume and no unhealthy drive
(`RaidController.healthRows_healthy`).
-/

namespace StorageInventory

/-! ## Verdicts -/

namespace Verdict

theorem isHealthy_iff {v : Verdict} : v.isHealthy = true ↔ v.causes = [] := by
  rw [isHealthy, List.isEmpty_iff]

@[simp] theorem status_eq_healthy {v : Verdict} : v.status = .healthy ↔ v.isHealthy = true := by
  cases h : v.isHealthy <;> simp [status, h]

theorem status_eq_unhealthy {v : Verdict} : v.status = .unhealthy ↔ v.isHealthy = false := by
  cases h : v.isHealthy <;> simp [status, h]

theorem status_eq_healthy_iff {v : Verdict} : v.status = .healthy ↔ v.causes = [] :=
  status_eq_healthy.trans isHealthy_iff

@[simp] theorem named_eq_nil {v : Verdict} : v.named name = [] ↔ v.isHealthy = true := by
  rw [named, List.map_eq_nil_iff, isHealthy_iff]

end Verdict

namespace PhysicalDrive

/-- The cap and the width of the counter do not matter at the threshold, for a drive with a number
of records that the counter holds. -/
theorem errorCount_le_threshold {d : PhysicalDrive} (h : d.errorRecords.length < UInt32.size) :
    d.errorCount ≤ errorThreshold ↔ d.mediaErrors.toNat + d.errorRecords.length ≤ 5 := by
  have hmod : d.errorRecords.length % UInt32.size = d.errorRecords.length := Nat.mod_eq_of_lt h
  have hsize : UInt32.size = 4294967296 := rfl
  rw [errorCount, errorThreshold, hmod, hsize]
  omega

/-- A drive is healthy with at most five errors and a good status. -/
theorem verdict_isHealthy {d : PhysicalDrive} (h : d.errorRecords.length < UInt32.size) :
    d.verdict.isHealthy = true ↔ d.mediaErrors.toNat + d.errorRecords.length ≤ 5 ∧
      d.family.goodDriveStatus d.status = true := by
  rw [← errorCount_le_threshold h, ← Nat.not_lt, Verdict.isHealthy_iff, verdict,
    List.append_eq_nil_iff]
  simp

end PhysicalDrive

namespace Volume

/-- A volume is healthy when it is not degraded and its members are healthy. -/
theorem verdict_isHealthy {v : Volume} : v.verdict.isHealthy = true ↔
    v.degraded = false ∧ ∀ d ∈ v.members, d.verdict.isHealthy = true := by
  rw [Verdict.isHealthy_iff, verdict, List.append_eq_nil_iff, List.flatMap_eq_nil_iff]
  simp only [Verdict.named_eq_nil]
  refine and_congr_left fun _ => ?_
  cases hdata : v.data with
  | none => simp [degraded, hdata]
  | some data => simp [degraded, hdata]

end Volume

theorem ExposedDrive.verdict_isHealthy {d : ExposedDrive} :
    d.verdict.isHealthy = true ↔ d.drive.verdict.isHealthy = true := by
  rw [Verdict.isHealthy_iff, verdict, Verdict.named_eq_nil]

/-- Only uncorrectable errors of the bus count against a controller itself. -/
theorem RaidController.verdict_isHealthy {c : RaidController} :
    c.verdict.isHealthy = true ↔ c.pci.uncorrectableErrors = [] := by
  rw [Verdict.isHealthy_iff, verdict, List.map_eq_nil_iff]

/-! ## Rows -/

namespace HealthRow
variable {category summary : String} {verdict : Verdict} {introduced : Bool} {causes : List String}
  {rows : List HealthRow}

/-- Rows tell a verdict: they begin with one row and go on with rows that continue it, all of them
with the status; the causes are the rows themselves or those behind the first, and a record against
which there are none has one row. -/
structure Tells (category : String) (verdict : Verdict) (introduced : Bool)
    (rows : List HealthRow) : Prop where
  head : ∃ first more, rows = first :: more ∧ first.continued = false ∧
    ∀ row ∈ more, row.continued = true
  categories : ∀ row ∈ rows, row.category = category
  status : ∀ row ∈ rows, row.status = verdict.status
  causes : verdict.status = .unhealthy →
    (if introduced then rows.tail else rows).map (·.detail) = verdict.causes
  healthy : verdict.status = .healthy → rows.length = 1

theorem map_detail_continuing (category : String) (verdict : Verdict) (causes : List String) :
    (continuing category verdict causes).map (·.detail) = causes := by
  simp [continuing, Function.comp_def]

theorem of_mem_continuing {row : HealthRow} (h : row ∈ continuing category verdict causes) :
    row.category = category ∧ row.status = verdict.status ∧ row.continued = true := by
  obtain ⟨_, _, rfl⟩ := List.mem_map.mp h
  exact ⟨rfl, rfl, rfl⟩

/-- A row and rows that continue it have the shape of a group. -/
theorem tells_cons {first : HealthRow} (hcontinued : first.continued = false)
    (hcategory : first.category = category) (hstatus : first.status = verdict.status)
    (hcauses : verdict.status = .unhealthy →
      (if introduced then continuing category verdict causes
        else first :: continuing category verdict causes).map (·.detail) = verdict.causes)
    (hhealthy : verdict.status = .healthy → causes = []) :
    Tells category verdict introduced (first :: continuing category verdict causes) where
  head := ⟨first, _, rfl, hcontinued, fun row hrow => (of_mem_continuing hrow).2.2⟩
  categories := List.forall_mem_cons.mpr ⟨hcategory, fun row hrow => (of_mem_continuing hrow).1⟩
  status := List.forall_mem_cons.mpr ⟨hstatus, fun row hrow => (of_mem_continuing hrow).2.1⟩
  causes := hcauses
  healthy h := by rw [hhealthy h]; rfl

/-- The causes are the rows, or the summary when there is none. -/
theorem ofVerdict_tells (category : String) (verdict : Verdict) (summary : String) :
    Tells category verdict false (ofVerdict category verdict summary) := by
  cases hcauses : verdict.causes with
  | nil =>
    have hstatus : verdict.status = .healthy := Verdict.status_eq_healthy_iff.mpr hcauses
    rw [ofVerdict, hcauses]
    change Tells category verdict false (_ :: continuing category verdict [])
    refine tells_cons rfl rfl rfl (fun h => ?_) fun _ => rfl
    cases hstatus.symm.trans h
  | cons first more =>
    rw [ofVerdict, hcauses]
    refine tells_cons rfl rfl rfl (fun _ => ?_) fun h => ?_
    · simp [map_detail_continuing, hcauses]
    · cases hcauses.symm.trans (Verdict.status_eq_healthy_iff.mp h)

/-- The summary is the first row, and the causes follow it. -/
theorem withCauses_tells (category : String) (verdict : Verdict) (summary : String) :
    Tells category verdict true (withCauses category verdict summary) :=
  tells_cons rfl rfl rfl (fun _ => map_detail_continuing ..) Verdict.status_eq_healthy_iff.mp

/-- The health of a record can be read off its group. -/
theorem Tells.forall_healthy (h : Tells category verdict introduced rows) :
    (∀ row ∈ rows, row.status = .healthy) ↔ verdict.isHealthy = true := by
  obtain ⟨first, more, hrows, _⟩ := h.head
  rw [← Verdict.status_eq_healthy]
  constructor
  · intro hall
    have hfirst : first ∈ rows := hrows ▸ List.mem_cons_self
    exact (h.status first hfirst).symm.trans (hall first hfirst)
  · intro hstatus row hrow
    exact (h.status row hrow).trans hstatus

theorem ofVerdict_healthy :
    (∀ row ∈ ofVerdict category verdict summary, row.status = .healthy) ↔
      verdict.isHealthy = true :=
  (ofVerdict_tells ..).forall_healthy

theorem withCauses_healthy :
    (∀ row ∈ withCauses category verdict summary, row.status = .healthy) ↔
      verdict.isHealthy = true :=
  (withCauses_tells ..).forall_healthy

end HealthRow

namespace RaidController

/-- All drive records of a controller. -/
def drives (c : RaidController) : List PhysicalDrive :=
  c.volumes.flatMap (·.members) ++ c.exposedDrives.map (·.drive) ++ c.unconfiguredDrives

/-- The rows of a controller are healthy when nothing that it has is unhealthy. -/
theorem healthRows_healthy {c : RaidController} :
    (∀ row ∈ c.healthRows, row.status = .healthy) ↔
      c.pci.uncorrectableErrors = [] ∧ (∀ d ∈ c.drives, d.verdict.isHealthy = true) ∧
        ∀ v ∈ c.volumes, v.degraded = false := by
  simp only [healthRows, List.forall_mem_append, List.forall_mem_flatMap, Volume.healthRows,
    ExposedDrive.healthRows, PhysicalDrive.healthRows, HealthRow.ofVerdict_healthy,
    HealthRow.withCauses_healthy, verdict_isHealthy, Volume.verdict_isHealthy,
    ExposedDrive.verdict_isHealthy, drives, List.forall_mem_map]
  constructor
  · rintro ⟨⟨⟨hpci, hvolumes⟩, hexposed⟩, hunconfigured⟩
    exact ⟨hpci, ⟨⟨fun v hv => (hvolumes v hv).2, hexposed⟩, hunconfigured⟩,
      fun v hv => (hvolumes v hv).1⟩
  · rintro ⟨hpci, ⟨⟨hmembers, hexposed⟩, hunconfigured⟩, hdegraded⟩
    exact ⟨⟨⟨hpci, fun v hv => ⟨hdegraded v hv, hmembers v hv⟩⟩, hexposed⟩, hunconfigured⟩

end RaidController

theorem DirectDrive.healthRows_healthy {d : DirectDrive} :
    (∀ row ∈ d.healthRows, row.status = .healthy) ↔ d.verdict.isHealthy = true :=
  HealthRow.ofVerdict_healthy

/-- A report is healthy when the rows of its controllers are. -/
theorem Report.isHealthy_iff {r : Report} : r.isHealthy = true ↔
    (∀ c ∈ r.raidControllers, ∀ row ∈ c.healthRows, row.status = .healthy) ∧
      ∀ c ∈ r.directControllers, ∀ d ∈ c.drives, d.verdict.isHealthy = true := by
  simp only [isHealthy, List.all_eq_true, beq_iff_eq, healthRows, List.forall_mem_append,
    List.forall_mem_flatMap, DirectDrive.healthRows_healthy]

end StorageInventory
