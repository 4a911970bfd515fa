import StorageInventory.Drive
import StorageInventory.Text.Quoted

/-!
# Vendor inventories

What a vendor tool knows of one controller: the controller as the tool lists it, and, once its
output is read, the controller's record, its volumes with their members, and the drives outside of
volumes.
-/

namespace StorageInventory

/-- A controller as a tool lists it. -/
structure ListedController where
  /-- The name under which the tool takes the controller. -/
  adapterId : String := ""
  /-- The address, when the listing has one. -/
  pci : Option PciAddress := none
  productName : String := ""
  deriving DecidableEq, Repr

namespace ListedController

/-- Whether the listing gives the controller this place on the bus. -/
def isAt (c : ListedController) (address : PciAddress) : Bool := c.pci.any (·.sameSlot address)

end ListedController

/-- A tool's record of a controller. -/
structure ControllerRecord where
  adapterId : String := ""
  pci : Option PciAddress := none
  productName : String := ""
  firmware : String := ""
  bios : String := ""
  serial : String := ""
  /-- Whether there is a battery, when the tool speaks of one. -/
  battery : Option Bool := none
  deriving DecidableEq, Repr

/-- What a volume of a tool and a block device of the kernel have in common. -/
inductive VolumeKey
  | target (id : UInt16)
  | sasAddress (address : String)
  | devicePath (path : String)
  deriving DecidableEq, Repr

namespace VolumeKey

/-- The key in one line. -/
def text : VolumeKey → String
  | target id => s!"Target({id})"
  | sasAddress address => "SasAddress(" ++ Text.quoted address ++ ")"
  | devicePath path => "DevicePath(" ++ Text.quoted path ++ ")"

end VolumeKey

/-- A tool's record of a volume. -/
structure VolumeRecord where
  key : VolumeKey
  label : String := ""
  level : RaidLevel := .unknown
  /-- The size in bytes. -/
  size : UInt64 := 0
  status : String := ""
  /-- The size of a stripe in bytes. -/
  stripeSize : UInt64 := 0
  cachePolicy : String := ""
  members : List PhysicalDrive := []
  deriving DecidableEq, Repr

/-- Everything that a tool knows of one controller. -/
structure Inventory where
  controller : ControllerRecord := {}
  volumes : List VolumeRecord := []
  /-- Drives that the host sees one by one. -/
  exposed : List PhysicalDrive := []
  unconfigured : List PhysicalDrive := []
  deriving DecidableEq, Repr

namespace Inventory

/-- All drive records: the members of volumes, then the drives outside of them. -/
def drives (v : Inventory) : List PhysicalDrive :=
  v.volumes.flatMap (·.members) ++ v.exposed ++ v.unconfigured

/-- The number of drive records. -/
def driveCount (v : Inventory) : Nat := v.drives.length

end Inventory

end StorageInventory
