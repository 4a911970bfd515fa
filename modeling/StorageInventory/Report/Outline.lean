import StorageInventory.Controller
import StorageInventory.Size

/-!
# Outline

A report as an indented text, two spaces for each level: controllers, their volumes and drives, and
the members of volumes.
-/

namespace StorageInventory

/-- A physical drive in one line. -/
def PhysicalDrive.line (d : PhysicalDrive) : String :=
  s!"[{d.position}] {d.status} " ++ Size.shown d.size.toNat ++
    s!" {d.form} {d.model} SN:{d.serial}"

/-- The lines of a volume. -/
def Volume.outline (v : Volume) : List String :=
  let known := match v.data with
    | some data => s!" {data.level.name} {data.status} {data.cachePolicy}"
    | none => ""
  (s!"    {v.name} " ++ Size.shown v.kernel.size ++ known) ::
    v.members.map ("      " ++ ·.line)

/-- The lines of a RAID controller. -/
def RaidController.outline (c : RaidController) : List String :=
  let vendor :=
    if c.vendorEnriched then
      s!"    firmware: {c.firmware}, bios: {c.bios}, battery: {c.battery.name}"
    else "    (no vendor data)"
  [s!"  {c.summary} [{c.family.name}]", vendor] ++
    c.pci.uncorrectableErrors.map ("    [ue] " ++ ·) ++
    c.pci.correctableErrors.map ("    [ce] " ++ ·) ++
    c.volumes.flatMap Volume.outline ++
    c.exposedDrives.map (fun d => s!"    {d.kernel.name} pass-through {d.drive.line}") ++
    c.unconfiguredDrives.map ("    unconf " ++ ·.line)

namespace DirectKind

/-- The name of a kind in an outline. -/
def name : DirectKind → String
  | ahci => "Ahci"
  | virtio => "Virtio"

end DirectKind

/-- A direct drive in one line. -/
def DirectDrive.line (d : DirectDrive) : String :=
  s!"    {d.kernel.name} {d.transport} {d.model} " ++ Size.shown d.kernel.size ++
    s!" SN:{d.serial} FW:{d.firmware}"

/-- The lines of a direct controller. -/
def DirectController.outline (c : DirectController) : List String :=
  s!"  {c.pci.longName} ({c.pci.driver}) [{c.kind.name}]" :: c.drives.map DirectDrive.line

/-- The lines of a report. -/
def Report.outlineLines (r : Report) : List String :=
  s!"{r.hostname} ({r.generatedAt.offsetText})" ::
    r.raidControllers.flatMap RaidController.outline ++
    r.directControllers.flatMap DirectController.outline

/-- The outline of a report, each line ended. -/
def Report.outline (r : Report) : String := String.join (r.outlineLines.map (· ++ "\n"))

end StorageInventory
