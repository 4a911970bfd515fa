import StorageInventory.Proofs.Trace.Outcomes
import StorageInventory.Scan

/-!
# Outcomes of an inventory run

What each step of a run gives, without its trace: the kernel decides which controllers are read and
which block devices they have, and the tool decides whether an inventory is matched with them
(`raidRecord`).
-/

namespace StorageInventory.Scanner
variable (s : Scanner) (t : FileTree)

/-- A tool's inventory counts when tools are run at all, the family has an installed one, and it
answers. -/
theorem vendorInventory_value (pci : PciDevice) (family : RaidFamily) :
    (s.vendorInventory pci family).value =
      if s.raidcliEnabled then
        (s.vendors.find? (·.family == family)).bind fun v =>
          if v.tool.isAvailable then (v.bind pci.address).outcome.toOption else none
      else none := by
  unfold vendorInventory
  cases s.raidcliEnabled with
  | false => rfl
  | true =>
    cases s.vendors.find? (·.family == family) with
    | none => rfl
    | some v =>
      cases hv : v.tool.isAvailable with
      | false => simp [hv]
      | true =>
        simp only [hv, if_true, Traced.value_bind, Option.bind_some]
        unfold Attempt.outcome
        cases Traced.value (v.bind pci.address).run <;> rfl

/-- The block devices that the kernel shows below a RAID controller. -/
def kernelDevices (pci : PciDevice) : Except Failure (List BlockDevice) :=
  (Kernel.blockDevices (s.log.child "topology") t s.root pci.path true).outcome

/-- The record of a RAID controller with these block devices and this inventory, if there is
one. -/
def raidRecord (pci : PciDevice) (family : RaidFamily) (devices : List BlockDevice) :
    Option Inventory → RaidController
  | none => .kernelOnly pci family devices
  | some vendor => enriched pci family vendor (.resolve family devices vendor)

theorem scanRaid_outcome (pci : PciDevice) (family : RaidFamily) :
    (s.scanRaid t pci family).outcome =
      (s.kernelDevices t pci).map fun devices =>
        raidRecord pci family devices (s.vendorInventory pci family).value := by
  unfold scanRaid kernelDevices
  rw [Attempt.outcome_bind]
  cases (Kernel.blockDevices (s.log.child "topology") t s.root pci.path true).outcome with
  | error e => rfl
  | ok devices =>
    simp only [Except.bind, Attempt.outcome_bind, Attempt.outcome_lift]
    cases (s.vendorInventory pci family).value <;> rfl

theorem scanController_value (pci : PciDevice) :
    (s.scanController t pci).value =
      match ControllerKind.ofDriver pci.driver with
      | .raid family => (s.scanRaid t pci family).outcome.toOption.map .raid
      | .direct kind => (s.scanDirect t pci kind).outcome.toOption.map .direct
      | .unsupported => none := by
  unfold scanController
  cases ControllerKind.ofDriver pci.driver with
  | raid family =>
    simp only [Attempt.outcome, Traced.value_bind]
    cases Traced.value (s.scanRaid t pci family).run <;> rfl
  | direct kind =>
    simp only [Attempt.outcome, Traced.value_bind]
    cases Traced.value (s.scanDirect t pci kind).run <;> rfl
  | unsupported => rfl

theorem scan_outcome (hostname : String) (generatedAt : Timestamp) :
    (s.scan t hostname generatedAt).outcome =
      (Kernel.pciDevices (s.log.child "pci") t s.root).outcome.map fun devices =>
        let found := devices.filterMap fun pci => (s.scanController t pci).value
        { hostname
          generatedAt
          raidControllers := raidControllers found
          directControllers := directControllers found } := by
  unfold scan
  rw [Attempt.outcome_bind]
  cases (Kernel.pciDevices (s.log.child "pci") t s.root).outcome with
  | error e => rfl
  | ok devices => simp [Except.bind, Except.map, Traced.value_mapM, List.filterMap_map]

/-- A RAID controller of a report is the record of a device of the bus. -/
theorem exists_of_mem_raidControllers (h : (s.scan t hostname generatedAt).outcome = .ok report)
    (hc : c ∈ report.raidControllers) :
    ∃ pcis, (Kernel.pciDevices (s.log.child "pci") t s.root).outcome = .ok pcis ∧
      ∃ pci ∈ pcis, ∃ family devices vendor, c = raidRecord pci family devices vendor := by
  rw [scan_outcome] at h
  obtain ⟨pcis, hpcis, rfl⟩ := Attempt.map_eq_ok_iff.mp h
  refine ⟨pcis, hpcis, ?_⟩
  simp only [raidControllers, List.filterMap_filterMap, List.mem_filterMap,
    Option.bind_eq_some_iff] at hc
  obtain ⟨pci, hpci, found, hfound, hraid⟩ := hc
  refine ⟨pci, hpci, ?_⟩
  rw [scanController_value] at hfound
  cases hkind : ControllerKind.ofDriver pci.driver with
  | raid family =>
    simp only [hkind, scanRaid_outcome, Option.map_eq_some_iff, Attempt.toOption_eq_some_iff,
      Attempt.map_eq_ok_iff] at hfound
    obtain ⟨_, ⟨devices, _, rfl⟩, rfl⟩ := hfound
    exact ⟨family, devices, _, (Option.some.inj hraid).symm⟩
  | direct kind =>
    simp only [hkind, Option.map_eq_some_iff] at hfound
    obtain ⟨_, _, rfl⟩ := hfound
    cases hraid
  | unsupported =>
    rw [hkind] at hfound
    cases hfound

end StorageInventory.Scanner
