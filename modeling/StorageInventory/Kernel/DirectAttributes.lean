import StorageInventory.Drive
import StorageInventory.Kernel.Attribute

/-!
# Attributes of direct drives

What the kernel knows of a drive without a RAID controller in front of it.
-/

namespace StorageInventory

/-- What is known of a direct drive beside its block device. -/
structure DriveAttributes where
  vendor : String := ""
  model : String := ""
  serial : String := ""
  firmware : String := ""
  transport : String := ""
  /-- Zero when unknown, one for a solid state drive, else the revolutions per minute. -/
  rotation : UInt32 := 0
  temperature : Option Int16 := none
  errorRecords : List SmartRecord := []
  deriving DecidableEq, Repr

namespace Kernel

/-- How a drive is attached, going by its vendor and its name. -/
def transport (vendor name : String) : String :=
  if vendor = "ATA" then "SATA" else if Text.beginsWith name "vd" then "virtio" else "SCSI"

/-- The attributes of a drive. The kernel tells solid state drives from others, and neither
temperature nor errors. -/
def driveAttributes (t : FileTree) (device : BlockDevice) : DriveAttributes :=
  let block := Path.join (Path.join device.path "block") device.name
  let vendor := attributeText t device.path "vendor"
  { vendor
    model := attributeText t device.path "model"
    serial := (attribute? t block "serial" <|> attribute? t device.path "serial").getD ""
    firmware := attributeText t device.path "rev"
    transport := transport vendor device.name
    rotation := if attribute? t block "queue/rotational" = some "0" then 1 else 0 }

end Kernel

end StorageInventory
