import Mathlib.Data.List.Forall2
import StorageInventory.Proofs.Matching.Conservation
import StorageInventory.Proofs.Scan.Outcome

/-!
# The kernel's part of a report

Two runs over one file tree whose scanners differ in their vendor tools alone are compared
controller by controller (`scan_corresponds`): the kernel's part is in both, and only what an
inventory adds to a RAID controller can differ. Main statement: whatever the tools of either run do,
both runs fail alike or report the same controllers with the same block devices
(`scan_kernelView`).
-/

namespace StorageInventory

namespace RaidController

/-- The block devices of a controller: those of its volumes, then those of its exposed drives. -/
def devices (c : RaidController) : List BlockDevice :=
  c.volumes.map (·.kernel) ++ c.exposedDrives.map (·.kernel)

@[simp] theorem devices_kernelOnly (pci : PciDevice) (family : RaidFamily)
    (devices : List BlockDevice) : (kernelOnly pci family devices).devices = devices := by
  simp [RaidController.devices, kernelOnly, Function.comp_def, Volume.bare]

end RaidController

namespace Matching

/-- Matching makes each block device a volume or an exposed drive. -/
theorem resolve_devices_perm (family : RaidFamily) (devices : List BlockDevice)
    (vendor : Inventory) :
    let r := Resolution.resolve family devices vendor
    (r.volumes.map (·.kernel) ++ r.exposedDrives.map (·.kernel)).Perm devices := by
  intro r
  simp only [r, resolve_eq_outcome, outcome, volumes_kernel, exposedDrives_kernel,
    ← List.map_append]
  refine ((List.perm_append_comm.trans (List.filter_append_perm ..)).map _).trans ?_
  rw [List.map_fst_zip (by simp only [List.length_map, Nat.le_refl]), assign_devices]

end Matching

/-- Two controllers of two runs, of which only RAID controllers may differ, as `R` says. -/
inductive Scanned.Corresponds (R : RaidController → RaidController → Prop) :
    Scanned → Scanned → Prop
  | raid : R c c' → Corresponds R (.raid c) (.raid c')
  | direct : Corresponds R (.direct d) (.direct d)

/-- Outcomes of two runs. Either both fail, and for the same reason, or both give a report; the
direct controllers of the reports are the same, and the RAID controllers correspond one by one. -/
inductive Report.Corresponds (R : RaidController → RaidController → Prop) :
    Except Failure Report → Except Failure Report → Prop
  | failed : Corresponds R (.error e) (.error e)
  | read : r'.directControllers = r.directControllers →
    List.Forall₂ R r.raidControllers r'.raidControllers → Corresponds R (.ok r) (.ok r')

namespace Scanner
variable {R : RaidController → RaidController → Prop}

theorem raidRecord_devices_perm (pci : PciDevice) (family : RaidFamily)
    (devices : List BlockDevice) (vendor : Option Inventory) :
    (raidRecord pci family devices vendor).devices.Perm devices := by
  cases vendor with
  | none => simp [raidRecord]
  | some vendor => exact Matching.resolve_devices_perm family devices vendor

@[simp] theorem raidRecord_pci (pci : PciDevice) (family : RaidFamily) (devices : List BlockDevice)
    (vendor : Option Inventory) : (raidRecord pci family devices vendor).pci = pci := by
  cases vendor <;> rfl

@[simp] theorem raidRecord_family (pci : PciDevice) (family : RaidFamily)
    (devices : List BlockDevice) (vendor : Option Inventory) :
    (raidRecord pci family devices vendor).family = family := by
  cases vendor <;> rfl

/-! ## Lifting a relation of controllers to reports -/

theorem directControllers_corresponds (h : List.Forall₂ (Scanned.Corresponds R) found found') :
    directControllers found' = directControllers found := by
  induction h with
  | nil => rfl
  | cons h _ ih => cases h <;> simpa [directControllers] using ih

theorem raidControllers_corresponds (h : List.Forall₂ (Scanned.Corresponds R) found found') :
    List.Forall₂ R (raidControllers found) (raidControllers found') := by
  induction h with
  | nil => exact .nil
  | cons h _ ih =>
    cases h with
    | raid hR => exact .cons hR ih
    | direct => exact ih

section
variable (s : Scanner) (t : FileTree) (raidcliEnabled : Bool) (vendors : List Vendor)

theorem scanController_corresponds (pci : PciDevice)
    (h : ∀ family devices, s.kernelDevices t pci = .ok devices →
      R (raidRecord pci family devices (s.vendorInventory pci family).value)
        (raidRecord pci family devices
          (vendorInventory { s with raidcliEnabled, vendors } pci family).value)) :
    Option.Rel (Scanned.Corresponds R) (s.scanController t pci).value
      (scanController { s with raidcliEnabled, vendors } t pci).value := by
  rw [scanController_value, scanController_value]
  cases ControllerKind.ofDriver pci.driver with
  | raid family =>
    simp only [scanRaid_outcome]
    have hkernel : kernelDevices { s with raidcliEnabled, vendors } t pci = s.kernelDevices t pci :=
      rfl
    rw [hkernel]
    cases hdevices : s.kernelDevices t pci with
    | error e => exact .none
    | ok devices => exact .some (.raid (h family devices hdevices))
  | direct kind =>
    have hdirect : scanDirect { s with raidcliEnabled, vendors } t pci kind =
      s.scanDirect t pci kind := rfl
    simp only [hdirect]
    cases (s.scanDirect t pci kind).outcome with
    | error e => exact .none
    | ok c => exact .some .direct
  | unsupported => exact .none

/-- Two runs that differ in their tools correspond as soon as the records of one RAID controller
do. -/
theorem scan_corresponds (hostname hostname' : String) (generatedAt generatedAt' : Timestamp)
    (h : ∀ pci family devices, s.kernelDevices t pci = .ok devices →
      R (raidRecord pci family devices (s.vendorInventory pci family).value)
        (raidRecord pci family devices
          (vendorInventory { s with raidcliEnabled, vendors } pci family).value)) :
    Report.Corresponds R (s.scan t hostname generatedAt).outcome
      (scan { s with raidcliEnabled, vendors } t hostname' generatedAt').outcome := by
  rw [scan_outcome, scan_outcome]
  cases (Kernel.pciDevices (s.log.child "pci") t s.root).outcome with
  | error e => exact .failed
  | ok pcis =>
    have hfound : List.Forall₂ (Scanned.Corresponds R)
        (pcis.filterMap fun pci => (s.scanController t pci).value)
        (pcis.filterMap fun pci =>
          (scanController { s with raidcliEnabled, vendors } t pci).value) := by
      refine List.rel_filterMap (R := Eq) ?_ (List.forall₂_eq_eq_eq ▸ rfl)
      rintro pci _ rfl
      exact scanController_corresponds s t raidcliEnabled vendors pci (h pci)
    exact .read (directControllers_corresponds hfound) (raidControllers_corresponds hfound)

end

/-! ## The kernel's part -/

/-- The records of one controller in two runs: the kernel's record and the family are the same, and
the block devices of both are those that the kernel shows. -/
structure SameKernel (s : Scanner) (t : FileTree) (c c' : RaidController) : Prop where
  pci : c'.pci = c.pci
  family : c'.family = c.family
  devices : ∃ devices, s.kernelDevices t c.pci = .ok devices ∧
    c.devices.Perm devices ∧ c'.devices.Perm devices

/-- Two runs over one file tree, each with tools that do whatever they like, fail alike or report
the same direct controllers and the same RAID controllers with the same block devices. -/
theorem scan_kernelView (s : Scanner) (t : FileTree) (raidcliEnabled : Bool)
    (vendors : List Vendor) (hostname hostname' : String) (generatedAt generatedAt' : Timestamp) :
    Report.Corresponds (SameKernel s t) (s.scan t hostname generatedAt).outcome
      (scan { s with raidcliEnabled, vendors } t hostname' generatedAt').outcome := by
  apply scan_corresponds
  intro pci family devices hdevices
  refine ⟨by simp, by simp, devices, by simpa using hdevices, ?_, ?_⟩
  · exact raidRecord_devices_perm ..
  · exact raidRecord_devices_perm ..

end Scanner

end StorageInventory
