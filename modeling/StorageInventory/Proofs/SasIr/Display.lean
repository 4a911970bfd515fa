import Mathlib.Tactic.MkIffOfInductiveProp
import StorageInventory.Proofs.Identifier.Spellings
import StorageInventory.Proofs.Listing.Blocks
import StorageInventory.SasIr
import StorageInventory.Table

/-!
# What the SAS-IR tool shows of a controller

The text that the tool prints for a controller, its volumes and its disks (`Display.text`), and the
inventory that the text stands for (`Display.inventory`): sections under banners between rules,
blocks of volumes and disks, and in a block one indented line for each key and value.
-/

namespace StorageInventory.SasIr

/-! ## Lines -/

/-- A text that fits in a line: it has no line feed, and no blanks stand around it. -/
def IsLine (s : String) : Prop := Text.trim s = s ∧ '\n' ∉ s.toList

instance (s : String) : Decidable (IsLine s) := inferInstanceAs (Decidable (_ ∧ _))

/-- A text that fits in a line as a key. -/
def IsKey (s : String) : Prop := IsLine s ∧ s ≠ "" ∧ ':' ∉ s.toList

instance (s : String) : Decidable (IsKey s) := inferInstanceAs (Decidable (_ ∧ _ ∧ _))

/-- The line of a key and a value. -/
def fieldLine (field : String × String) : String :=
  "  " ++ Table.pad 40 field.1 ++ ": " ++ field.2

/-- The line between two parts of the output. -/
def rule : String := String.ofList (List.replicate 72 '-')

/-- The lines that open a section. -/
def bannerLines (title : String) : List String := [rule, title, rule]

/-! ## Disks -/

/-- A disk as the tool shows it. -/
structure ShownDisk where
  enclosure : String := ""
  slot : String := ""
  /-- The address, with dashes between its parts. -/
  sasAddress : String
  status : String := ""
  megabytes : Nat
  sectors : Nat := 0
  model : String := ""
  firmware : String := ""
  serial : String := ""
  protocol : String := ""
  type : String := ""
  deriving DecidableEq, Repr

namespace ShownDisk

/-- The place of the disk. -/
def place (d : ShownDisk) : String := d.enclosure ++ ":" ++ d.slot

/-- The lines of the disk's block, as keys and values. -/
def fields (d : ShownDisk) : List (String × String) := [
  ("Enclosure #", d.enclosure),
  ("Slot #", d.slot),
  ("SAS Address", d.sasAddress),
  ("State", d.status),
  ("Size (in MB)/(in sectors)", toString d.megabytes ++ "/" ++ toString d.sectors),
  ("Model Number", d.model),
  ("Firmware Revision", d.firmware),
  ("Serial No", d.serial),
  ("Protocol", d.protocol),
  ("Drive Type", d.type)]

/-- The header of the block of a disk. -/
def header : String := "Device is a Hard disk"

def lines (d : ShownDisk) : List String :=
  "" :: header :: d.fields.map fieldLine

/-- The record of the disk. -/
def drive (d : ShownDisk) : PhysicalDrive where
  family := .sasIr
  enclosure := d.enclosure
  slot := d.slot
  protocol := d.protocol
  model := d.model
  serial := d.serial
  firmware := d.firmware
  size := UInt64.ofNat (d.megabytes * (1024 * 1024))
  rotation := if Text.holds (Text.upper d.type) "SSD" then 1 else 0
  status := d.status
  ids.sasAddress :=
    some (String.ofList ('0' :: 'x' :: Identifier.smallDigits d.sasAddress.toList))

/-- A disk whose texts fit in their lines, and that is present and of some size. -/
@[mk_iff]
structure Valid (d : ShownDisk) : Prop where
  enclosure : IsLine d.enclosure
  slot : IsLine d.slot
  sasAddress : Identifier.IsDashed d.sasAddress.toList
  status : IsLine d.status
  present : d.status ≠ "Missing (MIS)"
  megabytes : 0 < d.megabytes ∧ d.megabytes * (1024 * 1024) < UInt64.size
  model : IsLine d.model
  firmware : IsLine d.firmware
  serial : IsLine d.serial
  protocol : IsLine d.protocol
  type : IsLine d.type
  noEnclosure : Text.holds (Text.lower d.type) "enclosure" = false
  determined : Text.holds (Text.lower d.type) "undetermined" = false

instance (d : ShownDisk) : Decidable d.Valid := decidable_of_iff _ (valid_iff d).symm

end ShownDisk

/-! ## Volumes -/

/-- A volume as the tool shows it, with the disks it is made of. -/
structure ShownVolume where
  id : UInt32
  status : String := ""
  wwid : String
  /-- The tool's name of the level, and the level. -/
  level : String × RaidLevel
  megabytes : Nat := 0
  members : List ShownDisk := []
  deriving DecidableEq, Repr

namespace ShownVolume

/-- The line of the member with an index, as key and value. -/
def memberField (i : Nat) (d : ShownDisk) : String × String :=
  ("PHY[" ++ toString i ++ "] Enclosure#/Slot#", d.place)

/-- The lines of the volume's block, as keys and values. -/
def fields (v : ShownVolume) : List (String × String) := [
  ("Volume ID", toString v.id),
  ("Status of volume", v.status),
  ("Volume wwid", v.wwid),
  ("RAID level", v.level.1),
  ("Size (in MB)", toString v.megabytes),
  ("Physical hard disks", "")] ++ v.members.mapIdx memberField

/-- The header of the block of the volume with an index. -/
def header (i : Nat) : String := "IR volume " ++ toString (i + 1)

def lines (i : Nat) (v : ShownVolume) : List String := header i :: v.fields.map fieldLine

/-- The canonical identifier of the volume. -/
def address (v : ShownVolume) : String := "0x" ++ Text.lower v.wwid

/-- The record of the volume. -/
def record (v : ShownVolume) : VolumeRecord where
  key := .sasAddress v.address
  label := "vol:" ++ toString v.id
  level := v.level.2
  size := UInt64.ofNat (v.megabytes * (1024 * 1024))
  status := v.status
  members := v.members.map ShownDisk.drive

/-- A volume whose texts fit in their lines, of a level that the tool names, with an identifier. -/
@[mk_iff]
structure Valid (v : ShownVolume) : Prop where
  status : IsLine v.status
  wwid : v.wwid ≠ "" ∧ v.wwid.toList.all Identifier.isHexDigit = true
  level : v.level ∈ levels
  megabytes : v.megabytes * (1024 * 1024) < UInt64.size

instance (v : ShownVolume) : Decidable v.Valid := decidable_of_iff _ (valid_iff v).symm

end ShownVolume

/-! ## Controllers -/

/-- A controller as the tool shows it. -/
structure Display where
  controllerType : String := ""
  bios : String := ""
  firmware : String := ""
  volumes : List ShownVolume := []
  disks : List ShownDisk
  deriving DecidableEq, Repr

namespace Display

def controllerFields (d : Display) : List (String × String) := [
  ("Controller type", d.controllerType), ("BIOS version", d.bios), ("Firmware version", d.firmware)]

/-- The line in front of the sections. -/
def openingLine : String := "Read configuration has been initiated for controller 0"

/-- The line in front of the disks. -/
def initiatorLine : String := "Initiator at ID #0"

/-- The lines of the sections that are read, and what stands in front of them. -/
def sectionLines (d : Display) : List String :=
  ["", openingLine] ++
    bannerLines "Controller information" ++ d.controllerFields.map fieldLine ++
    bannerLines "IR Volume information" ++ (d.volumes.mapIdx ShownVolume.lines).flatten ++
    bannerLines "Physical device information" ++ [initiatorLine] ++
    d.disks.flatMap ShownDisk.lines

/-- The lines up to the banner of the first section that is not read. -/
def lines (d : Display) : List String := d.sectionLines ++ bannerLines "Enclosure information"

/-- The output of the tool, which goes on with anything behind the banner of the enclosures. -/
def text (d : Display) (rest : String) : String := String.join (d.lines.map (· ++ "\n")) ++ rest

/-- The disks that volumes are made of. -/
def members (d : Display) : List ShownDisk := d.volumes.flatMap (·.members)

/-- The inventory of the controller: the volumes with their members, and the other disks exposed. -/
def inventory (d : Display) (c : ListedController) : Inventory where
  controller := {
    adapterId := c.adapterId, pci := c.pci, productName := c.productName
    firmware := d.firmware, bios := d.bios }
  volumes := d.volumes.map ShownVolume.record
  exposed := (d.disks.filter (· ∉ d.members)).map ShownDisk.drive

/-- A display of volumes and disks that can be told apart, in which the members of volumes are disks
that are shown, none of them twice. -/
@[mk_iff]
structure Valid (d : Display) : Prop where
  controllerType : IsLine d.controllerType
  bios : IsLine d.bios
  firmware : IsLine d.firmware
  volumes : ∀ v ∈ d.volumes, v.Valid
  wwids : (d.volumes.map fun v => Text.lower v.wwid).Nodup
  disks : ∀ disk ∈ d.disks, disk.Valid
  places : (d.disks.map ShownDisk.place).Nodup
  members_shown : ∀ disk ∈ d.members, disk ∈ d.disks
  members_once : d.members.Nodup

instance (d : Display) : Decidable d.Valid := decidable_of_iff _ (valid_iff d).symm

end Display

end StorageInventory.SasIr
