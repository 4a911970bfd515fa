import StorageInventory.Drive
import StorageInventory.Timestamp

/-!
# Controllers

A storage controller on the PCI bus, the RAID and direct controllers that an inventory run makes of
it, and the report of one run.
-/

namespace StorageInventory

/-- A storage controller as the PCI bus shows it. -/
structure PciDevice where
  address : PciAddress := {}
  /-- The directory of the device. -/
  path : String := ""
  vendorId : UInt16 := 0
  deviceId : UInt16 := 0
  classCode : UInt32 := 0
  driver : String := ""
  numaNode : Option UInt32 := none
  uncorrectableErrors : List String := []
  correctableErrors : List String := []
  deriving DecidableEq, Repr

namespace PciDevice

/-- The vendor and device numbers and the address. -/
def longName (d : PciDevice) : String :=
  Numeral.hex 4 d.vendorId.toNat ++ ":" ++ Numeral.hex 4 d.deviceId.toNat ++ " at " ++
    d.address.text

end PciDevice

/-- A RAID controller with its volumes and drives. -/
structure RaidController where
  pci : PciDevice := {}
  family : RaidFamily := .megaRaid
  productName : String := ""
  firmware : String := ""
  bios : String := ""
  serial : String := ""
  /-- The tool's own name of the controller. -/
  adapterId : String := ""
  battery : Battery := .unknown
  /-- Whether a vendor tool added to the record. -/
  vendorEnriched : Bool := false
  volumes : List Volume := []
  exposedDrives : List ExposedDrive := []
  unconfiguredDrives : List PhysicalDrive := []
  deriving DecidableEq, Repr

namespace RaidController

/-- A controller of which only the kernel knows: every block device is a bare volume. -/
def kernelOnly (pci : PciDevice) (family : RaidFamily) (devices : List BlockDevice) :
    RaidController :=
  { pci, family, volumes := devices.map .bare }

/-- The controller in one line; what is not known is left out. -/
def summary (c : RaidController) : String :=
  let known (value text : String) := if value.isEmpty then "" else text
  c.pci.longName ++ known c.productName s!", {c.productName}" ++
    known c.pci.driver s!" ({c.pci.driver})" ++ known c.serial s!" (SN:{c.serial})"

end RaidController

/-- The kinds of controllers whose drives are attached directly. -/
inductive DirectKind
  | ahci
  | virtio
  deriving DecidableEq, Repr

/-- A controller whose drives are attached directly, one for each block device. -/
structure DirectController where
  pci : PciDevice := {}
  kind : DirectKind := .ahci
  drives : List DirectDrive := []
  deriving DecidableEq, Repr

/-- Everything that one inventory run found. -/
structure Report where
  hostname : String
  generatedAt : Timestamp
  raidControllers : List RaidController := []
  directControllers : List DirectController := []
  deriving DecidableEq, Repr

end StorageInventory
