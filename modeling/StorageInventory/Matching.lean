import StorageInventory.Inventory
import StorageInventory.Logger
import StorageInventory.Pool

/-!
# Matching

Which record of a vendor tool each block device of the kernel is. Devices are visited in order, and
each takes the first record that is left and fits: an exposed drive of the same identifier, or else
a volume of the same key. `assign` gives every device its role, and what nobody took; a
`Resolution` is made of the roles alone.
-/

namespace StorageInventory

/-- What a block device turns out to be. Records come with their index in the inventory. -/
inductive Role
  /-- A physical drive that the controller exposes. -/
  | exposed (drive : PhysicalDrive) (index : Nat)
  /-- A volume that the tool knows. -/
  | volume (record : VolumeRecord) (index : Nat)
  /-- A volume of which only the kernel knows. -/
  | bare
  deriving DecidableEq, Repr

namespace Matching

/-- The identifier that an exposed drive of the family shows to the kernel. -/
def driveId? (family : RaidFamily) (d : PhysicalDrive) : Option String :=
  match family with
  | .megaRaid => d.ids.wwn
  | .sasIr | .smartArray => d.ids.sasAddress

/-- The identifiers of a block device. -/
def deviceIds (device : BlockDevice) : List String :=
  device.sasAddress.toList ++ device.wwn.toList

/-- Whether a block device shows the identifier of a drive. -/
def isDrive (family : RaidFamily) (device : BlockDevice) (d : PhysicalDrive) : Bool :=
  (driveId? family d).any ((deviceIds device).contains ·)

/-- The key that a volume of the family would have in common with a block device. -/
def volumeKey? (family : RaidFamily) (device : BlockDevice) : Option VolumeKey :=
  match family with
  | .megaRaid => some (.target device.scsi.target)
  | .sasIr => device.sasAddress.map .sasAddress
  | .smartArray => some (.devicePath device.devicePath)

/-- Whether a block device has the key of a volume. -/
def isVolume (family : RaidFamily) (device : BlockDevice) (v : VolumeRecord) : Bool :=
  volumeKey? family device == some v.key

/-- The records that no block device has taken, with their indices. -/
structure Free where
  exposed : List (PhysicalDrive × Nat)
  volumes : List (VolumeRecord × Nat)

/-- All records of an inventory that a block device may take. -/
def Free.ofInventory (vendor : Inventory) : Free :=
  { exposed := vendor.exposed.zipIdx, volumes := vendor.volumes.zipIdx }

/-- The role of a block device, and what is free after it. -/
def role (family : RaidFamily) (free : Free) (device : BlockDevice) : Role × Free :=
  match Pool.take? (fun (d, _) => isDrive family device d) free.exposed with
  | some ((d, i), exposed) => (.exposed d i, { free with exposed })
  | none =>
    match Pool.take? (fun (v, _) => isVolume family device v) free.volumes with
    | some ((v, i), volumes) => (.volume v i, { free with volumes })
    | none => (.bare, free)

/-- The role of each block device in order, and what is free after the last. -/
def assign (family : RaidFamily) : Free → List BlockDevice → List (BlockDevice × Role) × Free
  | free, [] => ([], free)
  | free, device :: devices =>
    let (r, free) := role family free device
    let (roles, free) := assign family free devices
    ((device, r) :: roles, free)

/-- A volume of the kernel with what the tool knows of it. -/
def merged (family : RaidFamily) (device : BlockDevice) (v : VolumeRecord) : Volume where
  kernel := device
  data := some {
    level := v.level
    status := v.status
    cachePolicy := v.cachePolicy
    stripeSize := v.stripeSize
    label := v.label
    degraded := !family.goodVolumeStatus v.status }
  members := v.members

/-- The volume that a block device is, if it is one. -/
def volume? (family : RaidFamily) : BlockDevice × Role → Option Volume
  | (_, .exposed _ _) => none
  | (device, .volume v _) => some (merged family device v)
  | (device, .bare) => some (.bare device)

/-- The exposed drive that a block device is, if it is one. -/
def exposedDrive? : BlockDevice × Role → Option ExposedDrive
  | (device, .exposed drive _) => some { kernel := device, drive }
  | _ => none

/-- The drives of records that nobody took, and those that the tool calls unconfigured. -/
def leftover (free : Free) (vendor : Inventory) : List PhysicalDrive :=
  free.exposed.map (·.1) ++ free.volumes.flatMap (·.1.members) ++ vendor.unconfigured

end Matching

/-- The drives of one controller, each in one place. -/
structure Resolution where
  volumes : List Volume := []
  exposedDrives : List ExposedDrive := []
  unconfiguredDrives : List PhysicalDrive := []
  deriving DecidableEq, Repr

namespace Resolution

open Matching

/-- Matches block devices with an inventory. -/
def resolve (family : RaidFamily) (devices : List BlockDevice) (vendor : Inventory) :
    Resolution :=
  let (roles, free) := assign family (.ofInventory vendor) devices
  { volumes := roles.filterMap (volume? family)
    exposedDrives := roles.filterMap exposedDrive?
    unconfiguredDrives := leftover free vendor }

/-- Notes the role of a block device, for one that is no volume of the tool. -/
def noteRole (log : Logger) (family : RaidFamily) : BlockDevice × Role → Traced Unit
  | (device, .exposed d _) => log.debug s!"{device.name}: pass-through drive at {d.position}"
  | (_, .volume _ _) => pure ()
  | (device, .bare) =>
    match volumeKey? family device with
    | some key => log.debug s!"{device.name}: no vendor volume for {key.text}"
    | none => log.debug s!"{device.name}: no identifier to match on"

/-- Matches block devices with an inventory, and notes what becomes of each. -/
def noted (log : Logger) (family : RaidFamily) (devices : List BlockDevice)
    (vendor : Inventory) : Traced Resolution := do
  let r := resolve family devices vendor
  (assign family (.ofInventory vendor) devices).1.forM (noteRole log family)
  log.debug (s!"resolved {devices.length} stubs: {r.volumes.length} volumes, " ++
    s!"{r.exposedDrives.length} pass-through, {r.unconfiguredDrives.length} unconfigured")
  return r

end Resolution

end StorageInventory
