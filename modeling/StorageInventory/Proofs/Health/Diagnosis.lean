import Mathlib.Data.List.Forall2
import StorageInventory.CommandLine.Run
import StorageInventory.Proofs.Health.Verdicts
import StorageInventory.Proofs.Table.Layout

/-!
# The rows of a diagnosis

A diagnosis has one group of rows for each record that has a verdict, and a group tells the verdict
and the causes against the record. Main statements: the health of a report is that of its records
(`Report.isHealthy_iff_subjects`), the row that begins a group shows it
(`Report.not_isHealthy_iff_exists_row`), the table has the rows (`Report.healthTable_printed`), and
what the program prints and how it ends (`Report.diagnosis_truthful`).
-/

namespace StorageInventory

/-- A record of a report that has a verdict of its own. -/
inductive Subject
  | controller (c : RaidController)
  | volume (v : Volume)
  | exposed (d : ExposedDrive)
  | unconfigured (d : PhysicalDrive)
  | direct (d : DirectDrive)

namespace Subject

def verdict : Subject → Verdict
  | controller c => c.verdict
  | volume v => v.verdict
  | exposed d => d.verdict
  | unconfigured d => d.verdict
  | direct d => d.verdict

def category : Subject → String
  | controller _ => "RAID Card"
  | volume _ => "RAID Volume"
  | exposed _ => "Pass-Through Drive"
  | unconfigured _ => "Unconfigured Drive"
  | direct _ => "SATA Drive"

/-- Whether the causes against a record follow a row that says what it is. -/
def isIntroduced : Subject → Bool
  | controller _ | direct _ => false
  | volume _ | exposed _ | unconfigured _ => true

/-- The rows that a diagnosis has of a record. -/
def rows : Subject → List HealthRow
  | controller c => HealthRow.ofVerdict "RAID Card" c.verdict c.pci.longName
  | volume v => v.healthRows
  | exposed d => d.healthRows
  | unconfigured d => d.healthRows
  | direct d => d.healthRows

end Subject

/-- The rows of every record tell its verdict, with its causes as rows or behind one. -/
theorem Subject.rows_tells (x : Subject) :
    HealthRow.Tells x.category x.verdict x.isIntroduced x.rows := by
  cases x with
  | controller | direct => exact HealthRow.ofVerdict_tells ..
  | volume | exposed | unconfigured => exact HealthRow.withCauses_tells ..

/-! ## Reports -/

/-- A controller and what it has, in the order of a report. -/
def RaidController.subjects (c : RaidController) : List Subject :=
  .controller c :: c.volumes.map .volume ++ c.exposedDrives.map .exposed ++
    c.unconfiguredDrives.map .unconfigured

theorem RaidController.healthRows_eq (c : RaidController) :
    c.healthRows = c.subjects.flatMap Subject.rows := by
  simp [healthRows, subjects, Subject.rows, List.flatMap_map]

namespace Report

/-- The records of a report that have a verdict, in order. -/
def subjects (r : Report) : List Subject :=
  r.raidControllers.flatMap RaidController.subjects ++
    r.directControllers.flatMap fun c => c.drives.map .direct

/-- The rows of a report are those of its records, one group behind the other. -/
theorem healthRows_eq (r : Report) : r.healthRows = r.subjects.flatMap Subject.rows := by
  have hraid : RaidController.healthRows = fun c => c.subjects.flatMap Subject.rows :=
    funext RaidController.healthRows_eq
  simp [healthRows, subjects, hraid, List.flatMap_assoc, List.flatMap_map, Subject.rows]

theorem isHealthy_iff_subjects {r : Report} :
    r.isHealthy = true ↔ ∀ x ∈ r.subjects, x.verdict.isHealthy = true := by
  simp only [isHealthy, healthRows_eq, List.all_eq_true, beq_iff_eq, List.forall_mem_flatMap]
  exact forall₂_congr fun x _ => x.rows_tells.forall_healthy

/-- A report is unhealthy when some row that begins a group is. -/
theorem not_isHealthy_iff_exists_row {r : Report} : r.isHealthy = false ↔
    ∃ row ∈ r.healthRows, row.continued = false ∧ row.status = .unhealthy := by
  constructor
  · intro h
    have hsubjects : ¬∀ x ∈ r.subjects, x.verdict.isHealthy = true := by
      rw [← isHealthy_iff_subjects, h]
      exact Bool.false_ne_true
    simp only [not_forall] at hsubjects
    obtain ⟨x, hx, hsick⟩ := hsubjects
    obtain ⟨first, more, hrows, hfirst, _⟩ := x.rows_tells.head
    have hmem : first ∈ x.rows := hrows ▸ List.mem_cons_self
    have hstatus : first.status = .unhealthy := by
      rw [x.rows_tells.status first hmem, Verdict.status, if_neg hsick]
    refine ⟨first, ?_, hfirst, hstatus⟩
    rw [healthRows_eq]
    exact List.mem_flatMap.mpr ⟨x, hx, hmem⟩
  · rintro ⟨row, hrow, _, hstatus⟩
    rw [isHealthy, List.all_eq_false]
    exact ⟨row, hrow, by simp [hstatus]⟩

end Report

/-! ## Printed rows -/

/-- What is printed of a row: its category, the word for its status and its detail, or the detail
alone when it continues the row above. -/
inductive HealthRow.Printed : HealthRow → List String → Prop
  | healthy (category detail : String) :
    Printed { category, status := .healthy, detail } [category, "healthy", detail]
  | unhealthy (category detail : String) :
    Printed { category, status := .unhealthy, detail } [category, "UNHEALTHY", detail]
  | continued (category : String) (status : HealthStatus) (detail : String) :
    Printed { category, status, detail, continued := true } ["", "", detail]

namespace HealthRow

theorem cells_printed (row : HealthRow) : Printed row row.cells := by
  obtain ⟨category, status, detail, continued⟩ := row
  cases continued with
  | true => exact .continued ..
  | false =>
    cases status with
    | healthy => exact .healthy ..
    | unhealthy => exact .unhealthy ..

/-- The word in the middle is there for the first row of an unhealthy group. -/
theorem Printed.unhealthy_iff {row : HealthRow} {cells : List String} (h : Printed row cells) :
    cells[1]? = some "UNHEALTHY" ↔ row.continued = false ∧ row.status = .unhealthy := by
  cases h <;> simp

end HealthRow

namespace Report

theorem healthTable_headers (r : Report) :
    r.healthTable.headers = ["category", "stat", "detail"] := Table.headers_ofRows ..

/-- No row is dropped from the table, and each is printed as it is. -/
theorem healthTable_printed (r : Report) :
    List.Forall₂ HealthRow.Printed r.healthRows r.healthTable.rows := by
  have hrows : r.healthTable.rows = r.healthRows.map HealthRow.cells := by
    refine Table.rows_ofRows fun cells hcells => ?_
    obtain ⟨row, _, rfl⟩ := List.mem_map.mp hcells
    cases h : row.continued <;> simp [HealthRow.cells, h]
  rw [hrows, List.forall₂_map_right_iff, List.forall₂_same]
  exact fun row _ => row.cells_printed

theorem not_isHealthy_iff_exists_printed {r : Report} : r.isHealthy = false ↔
    ∃ cells ∈ r.healthTable.rows, cells[1]? = some "UNHEALTHY" := by
  have hprinted := r.healthTable_printed
  rw [not_isHealthy_iff_exists_row]
  generalize r.healthRows = rows, r.healthTable.rows = printed at hprinted
  induction hprinted with
  | nil => simp
  | cons hrow _ ih =>
    simp only [List.exists_mem_cons_iff, hrow.unhealthy_iff, ih]

end Report

namespace CommandLine

/-- The settings that are chosen can be used, the machine can be read with them, and this is the
report. -/
def Scans (choices : Choices) (machine : Snapshot) (r : Report) : Prop :=
  ∃ settings, choices.settings machine.tree = .ok settings ∧
    ((Scanner.ofSettings machine.tree settings { component := "scanner" }).scan machine.tree
      machine.hostname machine.takenAt).outcome = .ok r

theorem Command.run_value (command : Command) (h : Scans choices machine r) :
    (command.run choices machine).value = command.outcome choices.json r := by
  obtain ⟨settings, hsettings, hscan⟩ := h
  simp only [run, hsettings, Traced.value_bind]
  unfold Attempt.outcome at hscan
  rw [hscan]
  rfl

end CommandLine

open CommandLine in
/-- The rows of a report are groups, one for each record that has a verdict and in their order, that
tell the verdicts. So a report is healthy when all verdicts are. Every row is printed, and a
diagnosis of a machine that was read ends with 1 when a printed row has the word UNHEALTHY for its
status, and with 0 otherwise. -/
theorem Report.diagnosis_truthful (r : Report) :
    (∃ groups, r.healthRows = groups.flatten ∧
      List.Forall₂ (fun x rows => HealthRow.Tells x.category x.verdict x.isIntroduced rows)
        r.subjects groups) ∧
    (r.isHealthy = true ↔ ∀ x ∈ r.subjects, x.verdict.status = .healthy) ∧
    r.healthTable.size = r.healthRows.length ∧
    List.Forall₂ HealthRow.Printed r.healthRows r.healthTable.rows ∧
    Table.Shows ["category", "stat", "detail"] r.healthTable.rows r.healthTable.text ∧
    ∀ {choices machine}, Scans choices machine r →
      (Command.run .lsdiag choices machine).value.stdout = r.healthTable.text ∧
      (Command.run .lsdiag choices machine).value.exit =
        if ∃ cells ∈ r.healthTable.rows, cells[1]? = some "UNHEALTHY" then 1 else 0 := by
  have hprinted := r.healthTable_printed
  refine ⟨⟨r.subjects.map Subject.rows, ?_, ?_⟩, ?_, hprinted.length_eq.symm, hprinted, ?_,
    fun h => ?_⟩
  · rw [healthRows_eq, List.flatMap_def]
  · rw [List.forall₂_map_right_iff, List.forall₂_same]
    exact fun x _ => x.rows_tells
  · simp only [isHealthy_iff_subjects, Verdict.status_eq_healthy]
  · rw [← r.healthTable_headers]
    exact Table.text_shows (Table.ofRows_rectangular _ _)
  · rw [Command.run_value .lsdiag h, Command.outcome]
    dsimp only
    refine ⟨rfl, ?_⟩
    simp only [← not_isHealthy_iff_exists_printed]
    cases r.isHealthy <;> rfl

/-- A RAID controller without block devices, for which the bus counts an error. -/
def faultyMachine : Snapshot where
  hostname := "node"
  takenAt := ⟨⟨2024, 3, 1⟩, 12, 0, 0, 0⟩
  tree := .ofEntries [
    (["sys"], .directory), (["sys", "bus"], .directory), (["sys", "bus", "pci"], .directory),
    (["sys", "bus", "pci", "devices"], .directory),
    (["sys", "bus", "pci", "devices", "0:5:0.0"], .directory),
    (["sys", "bus", "pci", "devices", "0:5:0.0", "class"], .file "0x010400"),
    (["sys", "bus", "pci", "devices", "0:5:0.0", "driver"], .link "hpsa"),
    (["sys", "bus", "pci", "devices", "0:5:0.0", "aer_dev_fatal"], .file "DLP 1"),
    (["sys", "class"], .directory), (["sys", "class", "block"], .directory)]

def faultyReport : Report where
  hostname := "node"
  generatedAt := ⟨⟨2024, 3, 1⟩, 12, 0, 0, 0⟩
  raidControllers := [{
    pci := {
      address := { bus := 5 }
      path := "/sys/bus/pci/devices/0:5:0.0"
      classCode := 0x010400
      driver := "hpsa"
      uncorrectableErrors := ["DLP: 1"] }
    family := .smartArray }]

/-- The error is the row of the controller, and the program ends with 1. -/
theorem diagnosis_truthful_faulty :
    CommandLine.Scans [] faultyMachine faultyReport ∧
      faultyReport.healthTable.rows = [["RAID Card", "UNHEALTHY", "[ue] DLP: 1"]] ∧
      (CommandLine.Command.run .lsdiag [] faultyMachine).value.exit = 1 := by
  have hscan : CommandLine.Scans [] faultyMachine faultyReport :=
    ⟨{}, by decide +kernel, by decide +kernel⟩
  have hrows : faultyReport.healthTable.rows = [["RAID Card", "UNHEALTHY", "[ue] DLP: 1"]] := by
    decide
  obtain ⟨_, _, _, _, _, hrun⟩ := Report.diagnosis_truthful faultyReport
  refine ⟨hscan, hrows, (hrun hscan).2.trans ?_⟩
  rw [hrows]
  decide

end StorageInventory
