import Mathlib.Data.List.Forall2
import StorageInventory.Proofs.Health.Resolved
import StorageInventory.Proofs.Scan.Outcome
import StorageInventory.Report.Drives

/-!
# The rows of the table of drives

The table of drives has one row for each physical drive behind a RAID controller, and a controller
that was matched with an inventory has as many rows as the inventory has drives: matching loses no
drive, and the table drops no row. Main statement: `Report.driveTable_shows`.
-/

namespace StorageInventory

/-- A physical drive of a report, with the tool's name of its controller and the name of its block
device, which is empty for a drive without one. -/
structure DrivePlace where
  adapterId : String
  block : String
  drive : PhysicalDrive

/-- The drives of a controller: members of volumes, then unconfigured drives, then exposed ones. -/
def RaidController.drivePlaces (c : RaidController) : List DrivePlace :=
  c.volumes.flatMap (fun v => v.members.map (DrivePlace.mk c.adapterId v.kernel.name)) ++
    c.unconfiguredDrives.map (DrivePlace.mk c.adapterId "") ++
    c.exposedDrives.map fun e => DrivePlace.mk c.adapterId e.kernel.name e.drive

/-- A row tells where a drive is and what it is, each in the column of that name. -/
structure DrivePlace.Shown (headers : List String) (p : DrivePlace) (row : List String) : Prop where
  length_eq : row.length = headers.length
  block : (headers.zip row).lookup "blk" = some p.block
  adapterId : (headers.zip row).lookup "adp" = some p.adapterId
  position : (headers.zip row).lookup "pos" = some p.drive.position
  status : (headers.zip row).lookup "stat" = some p.drive.status
  model : (headers.zip row).lookup "model" = some p.drive.model

/-- The columns of the table of drives. -/
def driveHeaders : List String := ["blk", "conf", "adp", "pos", "stat", "size", "form", "model"]

theorem PhysicalDrive.cells_shown (d : PhysicalDrive) (block role adapterId : String) :
    DrivePlace.Shown driveHeaders ⟨adapterId, block, d⟩ (d.cells block role adapterId) := by
  constructor <;> simp [driveHeaders, cells, List.lookup_cons]

theorem DrivePlace.length_of_shown (h : List.Forall₂ (Shown headers) places rows) :
    ∀ row ∈ rows, row.length = headers.length := by
  induction h with
  | nil => exact fun row hrow => absurd hrow List.not_mem_nil
  | cons hshown _ ih => exact List.forall_mem_cons.mpr ⟨hshown.length_eq, ih⟩

namespace RaidController

/-- A controller has a row for each of its drives, in order. -/
theorem driveRows_shown (c : RaidController) :
    List.Forall₂ (DrivePlace.Shown driveHeaders) c.drivePlaces c.driveRows := by
  have hmap : ∀ {α : Type} (place : α → DrivePlace) (row : α → List String) (xs : List α),
      (∀ x, DrivePlace.Shown driveHeaders (place x) (row x)) →
      List.Forall₂ (DrivePlace.Shown driveHeaders) (xs.map place) (xs.map row) := by
    intro α place row xs h
    rw [List.forall₂_map_left_iff, List.forall₂_map_right_iff, List.forall₂_same]
    exact fun x _ => h x
  refine List.rel_append (List.rel_append ?_ ?_) ?_
  · refine List.rel_flatMap (List.forall₂_eq_eq_eq ▸ rfl) ?_
    rintro v _ rfl
    exact hmap _ _ v.members fun d => d.cells_shown ..
  · exact hmap _ _ c.unconfiguredDrives fun d => d.cells_shown ..
  · exact hmap _ _ c.exposedDrives fun e => e.drive.cells_shown ..

/-- No drive is shown twice or left out. -/
theorem length_driveRows (c : RaidController) : c.driveRows.length = c.drives.length := by
  rw [← c.driveRows_shown.length_eq, drivePlaces, drives]
  simp only [List.length_append, List.length_flatMap, List.length_map]
  omega

end RaidController

namespace Report

theorem driveRows_shown (r : Report) :
    List.Forall₂ (DrivePlace.Shown driveHeaders)
      (r.raidControllers.flatMap RaidController.drivePlaces)
      (r.raidControllers.flatMap RaidController.driveRows) := by
  refine List.rel_flatMap (List.forall₂_eq_eq_eq ▸ rfl) ?_
  rintro c _ rfl
  exact c.driveRows_shown

/-- No row is dropped, since each has all cells. -/
theorem driveTable_rows (r : Report) :
    r.driveTable.rows = r.raidControllers.flatMap RaidController.driveRows :=
  Table.rows_ofRows (DrivePlace.length_of_shown r.driveRows_shown)

theorem driveTable_headers (r : Report) : r.driveTable.headers = driveHeaders :=
  Table.headers_ofRows ..

theorem size_driveTable (r : Report) (c : RaidController) :
    (driveTable { r with raidControllers := [c] }).size = c.drives.length := by
  rw [Table.size, driveTable_rows, List.flatMap_singleton, c.length_driveRows]

/-- The kernel alone knows no physical drive. -/
theorem size_driveTable_kernelOnly (r : Report) (pci : PciDevice) (family : RaidFamily)
    (devices : List BlockDevice) :
    (driveTable { r with raidControllers := [.kernelOnly pci family devices] }).size = 0 := by
  rw [size_driveTable, RaidController.drives]
  simp [RaidController.kernelOnly, List.flatMap_map, Volume.bare]

/-- The table of a resolved inventory has as many rows as the inventory has drives. -/
theorem size_driveTable_enriched (r : Report) (pci : PciDevice) (family : RaidFamily)
    (devices : List BlockDevice) (vendor : Inventory) :
    (driveTable { r with raidControllers :=
      [Scanner.enriched pci family vendor (.resolve family devices vendor)] }).size =
        vendor.driveCount := by
  rw [size_driveTable, Inventory.driveCount]
  exact (Scanner.enriched_drives_perm family pci devices vendor).length_eq

open Scanner in
/-- The table of drives has one row for each member of a volume, unconfigured drive and exposed
drive of a RAID controller, in this order, and each row shows its drive. A controller that was
matched with an inventory, whatever the inventory and the devices, has a row for each of the
inventory's drives; so has one that is read, and none when no tool knows it. -/
theorem driveTable_shows (r : Report) :
    List.Forall₂ (DrivePlace.Shown r.driveTable.headers)
      (r.raidControllers.flatMap RaidController.drivePlaces) r.driveTable.rows ∧
    (∀ pci family devices vendor, (driveTable { r with raidControllers :=
      [enriched pci family vendor (.resolve family devices vendor)] }).size = vendor.driveCount) ∧
    ∀ (s : Scanner) t pci family,
      (s.scanRaid t pci family).outcome.map
        (fun c => (driveTable { r with raidControllers := [c] }).size) =
      (s.kernelDevices t pci).map fun _ =>
        ((s.vendorInventory pci family).value.map Inventory.driveCount).getD 0 := by
  refine ⟨?_, r.size_driveTable_enriched, fun s t pci family => ?_⟩
  · rw [driveTable_rows, driveTable_headers]
    exact r.driveRows_shown
  · rw [scanRaid_outcome]
    cases s.kernelDevices t pci with
    | error failure => rfl
    | ok devices =>
      refine congrArg Except.ok ?_
      cases (s.vendorInventory pci family).value with
      | none => exact r.size_driveTable_kernelOnly pci family devices
      | some vendor => exact r.size_driveTable_enriched pci family devices vendor

end Report

end StorageInventory
