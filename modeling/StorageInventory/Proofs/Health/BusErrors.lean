import StorageInventory.Proofs.Health.Diagnosis

/-!
# Bus errors in a diagnosis

What becomes of the uncorrectable errors that the bus counts for a controller. Main statement: those
of a RAID controller make a report unhealthy and have a row each, and those of a direct controller
do not count at all (`Report.errors_diagnosed`).
-/

namespace StorageInventory

theorem RaidController.mem_subjects (c : RaidController) : .controller c ∈ c.subjects := by
  simp [subjects]

namespace Report

theorem controller_mem_subjects {r : Report} (hc : c ∈ r.raidControllers) :
    .controller c ∈ r.subjects :=
  List.mem_append_left _ (List.mem_flatMap.mpr ⟨c, hc, c.mem_subjects⟩)

/-- Of a direct controller only the drives have rows. -/
theorem healthRows_congr {r r' : Report} (hraid : r'.raidControllers = r.raidControllers)
    (hdirect : r'.directControllers.map (·.drives) = r.directControllers.map (·.drives)) :
    r'.healthRows = r.healthRows := by
  have hrows (r : Report) : r.healthRows = r.raidControllers.flatMap (·.healthRows) ++
      (r.directControllers.map (·.drives)).flatMap (·.flatMap (·.healthRows)) := by
    rw [healthRows, List.flatMap_map]
  rw [hrows, hrows, hraid, hdirect]

/-- A report with an uncorrectable error of a RAID controller is unhealthy and has a row that shows
it. Two reports that differ in what the bus has of their direct controllers have the same rows, and
so the same health. -/
theorem errors_diagnosed (r : Report) :
    (∀ c ∈ r.raidControllers, ∀ record ∈ c.pci.uncorrectableErrors, r.isHealthy = false ∧
      ∃ row ∈ r.healthRows, row.status = .unhealthy ∧ row.detail = "[ue] " ++ record) ∧
    ∀ r' : Report, r'.raidControllers = r.raidControllers →
      r'.directControllers.map (·.drives) = r.directControllers.map (·.drives) →
      r'.healthRows = r.healthRows ∧ r'.isHealthy = r.isHealthy := by
  refine ⟨fun c hc record hrecord => ?_, fun r' hraid hdirect => ?_⟩
  · have hsubject := controller_mem_subjects hc
    have hcause : "[ue] " ++ record ∈ c.verdict.causes := List.mem_map_of_mem hrecord
    have hsick : c.verdict.isHealthy ≠ true := by
      rw [ne_eq, Verdict.isHealthy_iff]
      exact List.ne_nil_of_mem hcause
    have hstatus : c.verdict.status = .unhealthy := by rw [Verdict.status, if_neg hsick]
    have htold := (Subject.controller c).rows_tells
    have hdetails : (Subject.controller c).rows.map (·.detail) = c.verdict.causes :=
      htold.causes hstatus
    rw [← hdetails] at hcause
    obtain ⟨row, hrow, hdetail⟩ := List.mem_map.mp hcause
    refine ⟨?_, row, ?_, (htold.status row hrow).trans hstatus, hdetail⟩
    · rw [Bool.eq_false_iff, ne_eq, isHealthy_iff_subjects]
      exact fun h => hsick (h _ hsubject)
    · rw [healthRows_eq]
      exact List.mem_flatMap.mpr ⟨_, hsubject, hrow⟩
  · have hrows := healthRows_congr hraid hdirect
    exact ⟨hrows, by rw [isHealthy, hrows, isHealthy]⟩

end Report

/-- A RAID controller and a direct one, each with an uncorrectable error. -/
def erroneousReport : Report where
  hostname := "node"
  generatedAt := ⟨⟨2024, 3, 1⟩, 12, 0, 0, 0⟩
  raidControllers := [{ pci := { uncorrectableErrors := ["DLP: 1"] } }]
  directControllers := [{
    pci := { uncorrectableErrors := ["SDES: 1"] }
    drives := [{ kernel := { name := "sda" } }] }]

/-- The error of the RAID controller is shown, and that of the direct one makes no difference. -/
theorem errors_diagnosed_erroneous :
    let direct := { drives := [{ kernel := { name := "sda" } }] }
    (erroneousReport.isHealthy = false ∧ ∃ row ∈ erroneousReport.healthRows,
      row.status = .unhealthy ∧ row.detail = "[ue] " ++ "DLP: 1") ∧
    { erroneousReport with directControllers := [direct] }.healthRows = erroneousReport.healthRows :=
  ⟨erroneousReport.errors_diagnosed.1 _ (List.mem_singleton.mpr rfl) _ (List.mem_singleton.mpr rfl),
    (erroneousReport.errors_diagnosed.2 _ rfl rfl).1⟩

/-- Without the RAID controller the report is healthy, and no row shows the error of the direct
one. -/
theorem direct_error_hidden :
    let r := { erroneousReport with raidControllers := [] }
    (∃ c ∈ r.directControllers, "SDES: 1" ∈ c.pci.uncorrectableErrors) ∧ r.isHealthy = true ∧
      ∀ row ∈ r.healthRows, Text.holds row.detail "SDES: 1" = false := by
  decide +kernel

end StorageInventory
