import StorageInventory.Proofs.Health.Verdicts
import StorageInventory.Proofs.Matching.Conservation
import StorageInventory.Scan

/-!
# Health of a matched controller

The health of a controller that was matched with an inventory, said of the inventory alone. Where
matching puts a drive decides which row shows it and not whether its faults count.
-/

namespace StorageInventory

namespace Matching

/-- A volume of a resolution is degraded exactly when the record that it was merged with has no good
status. -/
theorem degraded_volumes (family : RaidFamily) (roles : List (BlockDevice × Role)) :
    (∀ v ∈ roles.filterMap (volume? family), v.degraded = false) ↔
      ∀ device v i, (device, Role.volume v i) ∈ roles →
        family.goodVolumeStatus v.status = true := by
  simp only [List.mem_filterMap]
  constructor
  · intro h device v i hmem
    have hv := h (merged family device v) ⟨_, hmem, rfl⟩
    simpa [Volume.degraded, merged] using hv
  · rintro h _ ⟨⟨device, r⟩, hmem, hv⟩
    cases r with
    | exposed => cases hv
    | volume v i =>
      cases hv
      simpa [Volume.degraded, merged] using h device v i hmem
    | bare => cases hv; rfl

end Matching

namespace Scanner
open Matching

/-- A matched controller has the drive records of the tool's inventory, each once. -/
theorem enriched_drives_perm (family : RaidFamily) (pci : PciDevice) (devices : List BlockDevice)
    (vendor : Inventory) :
    (enriched pci family vendor (.resolve family devices vendor)).drives.Perm vendor.drives :=
  (visits_assign family (.ofInventory vendor) devices).drives_perm

/-- A controller that was matched is healthy when the bus has no uncorrectable error of it, every
drive record of the tool has few enough errors and a good status, wherever matching put it, and
every volume that a device was merged with has a good status. -/
theorem enriched_isHealthy_iff (family : RaidFamily) (pci : PciDevice) (devices : List BlockDevice)
    (vendor : Inventory) (hostname : String) (generatedAt : Timestamp)
    (hrecords : ∀ d ∈ vendor.drives, d.errorRecords.length < UInt32.size) :
    Report.isHealthy {
      hostname
      generatedAt
      raidControllers := [enriched pci family vendor (.resolve family devices vendor)] } = true ↔
    pci.uncorrectableErrors = [] ∧
      (∀ d ∈ vendor.drives, d.mediaErrors.toNat + d.errorRecords.length ≤ 5 ∧
        d.family.goodDriveStatus d.status = true) ∧
      ∀ device v i, (device, .volume v i) ∈ (assign family (.ofInventory vendor) devices).1 →
        family.goodVolumeStatus v.status = true := by
  have hperm := enriched_drives_perm family pci devices vendor
  have hdrives : (∀ d ∈ (enriched pci family vendor (.resolve family devices vendor)).drives,
      d.verdict.isHealthy = true) ↔ ∀ d ∈ vendor.drives,
      d.mediaErrors.toNat + d.errorRecords.length ≤ 5 ∧
        d.family.goodDriveStatus d.status = true := by
    constructor
    · intro h d hd
      exact (PhysicalDrive.verdict_isHealthy (hrecords d hd)).mp (h d (hperm.mem_iff.mpr hd))
    · intro h d hd
      have hd := hperm.mem_iff.mp hd
      exact (PhysicalDrive.verdict_isHealthy (hrecords d hd)).mpr (h d hd)
  rw [Report.isHealthy_iff, ← hdrives, ← degraded_volumes]
  simp only [List.forall_mem_singleton, RaidController.healthRows_healthy]
  exact and_iff_left fun c hc => absurd hc List.not_mem_nil

/-- One drive the host sees, a volume that is fine with a drive at the threshold, and a degraded
volume. -/
def mixedInventory : Inventory where
  volumes := [
    { key := .target 0
      status := "Optimal"
      members := [{ family := .megaRaid, status := "Online", mediaErrors := 5 }] },
    { key := .target 7
      status := "Degraded"
      members := [{ family := .megaRaid, status := "Hotspare" }] }]
  exposed := [{
    family := .megaRaid
    status := "JBOD"
    mediaErrors := 4
    errorRecords := [{}]
    ids := { wwn := some "0x5" } }]

/-- A device for the drive that the host sees and one for each volume but the degraded one. -/
def mixedDevices : List BlockDevice := [{ name := "sda", wwn := some "0x5" }, { name := "sdb" }]

/-- A drive at the threshold and a degraded volume of no device leave the controller healthy. -/
theorem enriched_isHealthy_mixed :
    (∀ d ∈ mixedInventory.drives, d.errorRecords.length < UInt32.size) ∧
      Report.isHealthy {
        hostname := "node"
        generatedAt := ⟨⟨2024, 3, 1⟩, 12, 0, 0, 0⟩
        raidControllers := [enriched {} .megaRaid mixedInventory
          (.resolve .megaRaid mixedDevices mixedInventory)] } = true := by
  have hrecords : ∀ d ∈ mixedInventory.drives, d.errorRecords.length < UInt32.size := by decide
  have hmerged : ∀ x ∈ (assign .megaRaid (.ofInventory mixedInventory) mixedDevices).1,
      ∀ w ∈ x.2.volume?, RaidFamily.megaRaid.goodVolumeStatus w.1.status = true := by decide
  refine ⟨hrecords, (enriched_isHealthy_iff .megaRaid {} mixedDevices mixedInventory "node"
    ⟨⟨2024, 3, 1⟩, 12, 0, 0, 0⟩ hrecords).mpr ⟨rfl, by decide, ?_⟩⟩
  intro device v i hmem
  exact hmerged _ hmem (v, i) rfl

end Scanner

end StorageInventory
