import StorageInventory.Address
import StorageInventory.Raid

/-!
# Drives and volumes

The records of one inventory run below the controller: block devices as the kernel sees them,
physical drives as a vendor tool reports them, and what becomes of the two together: volumes,
drives exposed to the host one by one, and drives attached directly.
-/

namespace StorageInventory

/-- An error counter of a drive. -/
structure SmartRecord where
  id : UInt8 := 0
  name : String := ""
  current : UInt8 := 0
  worst : UInt8 := 0
  threshold : UInt8 := 0
  raw : Int64 := 0
  deriving DecidableEq, Repr

namespace SmartRecord

/-- The counter in one line. -/
def text (r : SmartRecord) : String :=
  Numeral.padded 3 r.id.toNat ++
    s!".{r.name} = current:{r.current} worst:{r.worst} threshold:{r.threshold} raw:{r.raw}"

end SmartRecord

/-- A block device under a storage controller, as the kernel shows it. -/
structure BlockDevice where
  /-- The kernel's name, such as `sda`. -/
  name : String := ""
  /-- The directory of the device that holds the block device. -/
  path : String := ""
  driver : String := ""
  model : String := ""
  /-- The size in sectors of 512 bytes. -/
  sectors : UInt64 := 0
  logicalBlockSize : UInt32 := 0
  physicalBlockSize : UInt32 := 0
  scheduler : String := ""
  scsi : ScsiAddress := {}
  /-- The canonical SAS address, for a device that has one. -/
  sasAddress : Option String := none
  /-- The canonical world wide name, for a device that has one. -/
  wwn : Option String := none
  deriving DecidableEq, Repr

namespace BlockDevice

/-- The size in bytes, a product of 64 bits: from `2 ^ 55` sectors on it wraps around. -/
def size (d : BlockDevice) : Nat := (d.sectors * 512).toNat

/-- The device file. -/
def devicePath (d : BlockDevice) : String := "/dev/" ++ d.name

end BlockDevice

/-- The place of a drive inside a disk group. -/
structure ArrayPosition where
  group : UInt16 := 0
  span : UInt16 := 0
  arm : UInt16 := 0
  deriving DecidableEq, Repr

/-- What a vendor tool tells a drive apart by. -/
structure DriveIdentity where
  /-- The canonical world wide name. -/
  wwn : Option String := none
  /-- The canonical SAS address. -/
  sasAddress : Option String := none
  position : Option ArrayPosition := none
  /-- The inquiry text as the tool prints it. -/
  inquiry : Option String := none
  deviceId : Option UInt16 := none
  deriving DecidableEq, Repr

/-- A physical drive as a vendor tool reports it. -/
structure PhysicalDrive where
  family : RaidFamily
  enclosure : String := ""
  slot : String := ""
  protocol : String := ""
  model : String := ""
  serial : String := ""
  firmware : String := ""
  /-- The size in bytes. -/
  size : UInt64 := 0
  /-- Zero when unknown, one for a solid state drive, else the revolutions per minute. -/
  rotation : UInt32 := 0
  linkSpeed : String := ""
  status : String := ""
  temperature : Option Int16 := none
  smartAlert : Bool := false
  mediaErrors : UInt32 := 0
  errorRecords : List SmartRecord := []
  ids : DriveIdentity := {}
  deriving DecidableEq, Repr

namespace PhysicalDrive

/-- The place of the drive, `enclosure:slot`. -/
def position (d : PhysicalDrive) : String := d.enclosure ++ ":" ++ d.slot

/-- Whether the drive is a solid state drive. -/
def isSolidState (d : PhysicalDrive) : Bool := d.rotation == 1

/-- Whether the drive has turning disks. -/
def isRotating (d : PhysicalDrive) : Bool := 1 < d.rotation

/-- Media errors and error records together, at most the greatest 32-bit number. -/
def errorCount (d : PhysicalDrive) : Nat :=
  min (d.mediaErrors.toNat + d.errorRecords.length % UInt32.size) (UInt32.size - 1)

/-- Protocol, kind and link speed in a few words, such as `SAS HDD (10000rpm) (12.0Gb/s)`. -/
def form (d : PhysicalDrive) : String :=
  let kind :=
    if d.isSolidState then d.protocol ++ " SSD"
    else if d.isRotating then s!"{d.protocol} HDD ({d.rotation}rpm)"
    else d.protocol
  Text.trim (if d.linkSpeed.isEmpty then kind else s!"{kind} ({d.linkSpeed})")

end PhysicalDrive

/-- What a vendor tool adds to a volume. -/
structure VolumeData where
  level : RaidLevel := .unknown
  status : String := ""
  cachePolicy : String := ""
  /-- The size of a stripe in bytes. -/
  stripeSize : UInt64 := 0
  /-- The tool's own label of the volume. -/
  label : String := ""
  degraded : Bool := false
  deriving DecidableEq, Repr

/-- A volume of a RAID controller; without `data` nothing but the kernel knows it. -/
structure Volume where
  kernel : BlockDevice := {}
  data : Option VolumeData := none
  members : List PhysicalDrive := []
  deriving DecidableEq, Repr

namespace Volume

/-- A volume of which only the kernel knows. -/
def bare (device : BlockDevice) : Volume := { kernel := device }

/-- The kernel's name of the volume. -/
def name (v : Volume) : String := v.kernel.name

/-- Whether a vendor tool added to the volume. -/
def isEnriched (v : Volume) : Bool := v.data.isSome

/-- Whether a vendor tool calls the volume degraded. -/
def degraded (v : Volume) : Bool := v.data.any (·.degraded)

/-- The name of the level, empty when it is not reported. -/
def levelName (v : Volume) : String := (v.data.map (·.level.name)).getD ""

/-- The status, empty when it is not reported. -/
def status (v : Volume) : String := (v.data.map (·.status)).getD ""

end Volume

/-- A physical drive that the controller exposes to the host as a block device of its own. -/
structure ExposedDrive where
  kernel : BlockDevice := {}
  drive : PhysicalDrive
  deriving DecidableEq, Repr

/-- A drive without a RAID controller in front of it. -/
structure DirectDrive where
  kernel : BlockDevice := {}
  vendor : String := ""
  model : String := ""
  serial : String := ""
  firmware : String := ""
  transport : String := ""
  /-- Zero when unknown, one for a solid state drive, else the revolutions per minute. -/
  rotation : UInt32 := 0
  temperature : Option Int16 := none
  errorRecords : List SmartRecord := []
  deriving DecidableEq, Repr

end StorageInventory
