import StorageInventory.Controller
import StorageInventory.Size
import StorageInventory.Table

/-!
# Table of drives

The physical drives behind RAID controllers, one row for each: members of volumes, then
unconfigured drives, then exposed drives.
-/

namespace StorageInventory

/-- The row of a drive: the block device and the role it has, its controller, and what the tool
knows of it. -/
def PhysicalDrive.cells (d : PhysicalDrive) (block role adapterId : String) : List String :=
  [block, role, adapterId, d.position, d.status, Size.shown d.size.toNat, d.form, d.model]

/-- The rows of a RAID controller. -/
def RaidController.driveRows (c : RaidController) : List (List String) :=
  c.volumes.flatMap (fun v => v.members.map (·.cells v.name v.levelName c.adapterId)) ++
    c.unconfiguredDrives.map (·.cells "" "unconf" c.adapterId) ++
    c.exposedDrives.map fun d => d.drive.cells d.kernel.name "Pass-Through" c.adapterId

/-- The table of the physical drives of a report. -/
def Report.driveTable (r : Report) : Table :=
  .ofRows ["blk", "conf", "adp", "pos", "stat", "size", "form", "model"]
    (r.raidControllers.flatMap RaidController.driveRows)

end StorageInventory
