import StorageInventory.Identifier
import StorageInventory.Inventory
import StorageInventory.Listing
import StorageInventory.Pool
import StorageInventory.Size
import StorageInventory.Tool

/-!
# SAS-IR listings

The output of the SAS-IR tool. Volumes are known by their SAS address and name their members by
enclosure and slot; disks that no volume names are exposed to the host. The tool prints sections,
a section is a list of blocks, and a block is read on its own.
-/

namespace StorageInventory.SasIr

/-- The tool's names of the levels. -/
def levels : List (String × RaidLevel) :=
  [("RAID0", .raid0), ("RAID1", .raid1), ("RAID1E", .raid1), ("RAID5", .raid5), ("RAID6", .raid6),
    ("RAID10", .raid10)]

/-! ## Controllers -/

/-- Reads a hexadecimal field of an address with any number of letters `h` behind it. -/
def addressField? (text : String) : Option UInt32 :=
  Numeral.hex32? (Text.dropEndWhile text (· == 'h'))

/-- Reads an address of four fields, such as `00h:61h:00h:00h`. -/
def address? (text : String) : Option PciAddress :=
  match (Text.piecesAt (Text.lower text) ':').mapM addressField? with
  | some [domain, bus, device, function] => some { domain, bus, device, function }
  | _ => none

/-- Reads the row of a controller: its number first, its type second and its address fifth of seven
words. -/
def controller? (line : String) : Option ListedController :=
  match Text.words line with
  | [index, type, _, _, address, _, _] => do
    let n ← Numeral.word32? index
    let pci ← address? address
    return { adapterId := toString n, pci := some pci, productName := type }
  | _ => none

/-- The controllers of a listing. -/
def controllers (lines : List String) : List ListedController := lines.filterMap controller?

/-! ## Sections -/

/-- The sections of a listing that are read. -/
inductive Section
  | controller
  | volumes
  | devices
  deriving DecidableEq, Repr

/-- The section that a banner opens. -/
def banner? (line : String) : Option Section :=
  match line with
  | "Controller information" => some .controller
  | "IR Volume information" => some .volumes
  | "Physical device information" => some .devices
  | _ => none

/-- Whether a line is blank or a rule of dashes. -/
def isRule (line : String) : Bool := line.toList.all (· == '-')

/-- Whether a line opens a section that is not read. -/
def isOtherBanner (line : String) : Bool :=
  (banner? line).isNone && Text.endsWith line "information" && !Text.holds line ":"

/-- The lines that count, without blanks around them: no rules, and nothing from the first section
on that is not read. -/
def content (lines : List String) : List String :=
  ((lines.map Text.trim).filter (!isRule ·)).takeWhile (!isOtherBanner ·)

/-- The lines of a section, over all its banners. -/
def sectionLines (kind : Section) (content : List String) : List String :=
  (Listing.blocks (fun line => (banner? line).isSome) content).flatMap fun block =>
    if banner? block.1 = some kind then block.2 else []

/-- Sets the part of a controller's record that a field names. -/
def setControllerField (record : ControllerRecord) (field : String × String) :
    ControllerRecord :=
  match field.1 with
  | "Firmware version" => { record with firmware := field.2 }
  | "BIOS version" => { record with bios := field.2 }
  | _ => record

/-! ## Volumes -/

/-- A volume with the places of its members as the tool names them. -/
structure NamedVolume where
  record : VolumeRecord
  /-- The identifier behind the volume's key. -/
  wwid : String := ""
  memberPlaces : List String := []

/-- Whether a line opens the block of a volume. -/
def isVolumeHeader (line : String) : Bool := Text.beginsWith line "IR volume"

/-- The unit that a key such as `Size (in MB)` names. -/
def sizeUnit (key : String) : String :=
  Text.trim (Text.dropEndWhile (Text.dropLeading key "Size (in ") (· == ')'))

/-- Sets the part of a volume that a field names. -/
def setVolumeField (v : NamedVolume) (field : String × String) : NamedVolume :=
  let (key, value) := field
  if Text.beginsWith key "Size (in" then
    { v with record.size := Size.inUnits value (Size.unitBytes .binary (sizeUnit key)) }
  else match key with
    | "Volume ID" =>
      match Numeral.word32? value with
      | some n => { v with record.label := s!"vol:{n}" }
      | none => v
    | "Volume wwid" => { v with wwid := value }
    | "Status of volume" => { v with record.status := value }
    | "RAID level" => { v with record.level := .ofTable levels value }
    | _ =>
      if Text.beginsWith key "PHY[" && Text.endsWith key "] Enclosure#/Slot#" then
        { v with memberPlaces := v.memberPlaces ++ [value] }
      else v

/-- Reads the block of a volume; without an identifier there is none. -/
def volume? (log : Logger) (block : String × List String) : Traced (Option NamedVolume) := do
  let v := (Listing.fields ":" block.2).foldl setVolumeField { record := { key := .sasAddress "" } }
  match Identifier.canonical? v.wwid with
  | some address => return some { v with record.key := .sasAddress address }
  | none =>
    log.debug ("volume " ++ v.record.label ++ " has no wwid, skipped")
    return none

/-- The volumes of their section. -/
def volumes (log : Logger) (lines : List String) : Traced (List NamedVolume) := do
  if lines.isEmpty then
    log.debug "no IR volumes, every disk is pass-through"
    return []
  else
    let found ← (Listing.blocks isVolumeHeader lines).mapM (volume? log)
    return found.filterMap id

/-! ## Disks -/

/-- A device, which need not be a disk. -/
structure Device where
  drive : PhysicalDrive := { family := .sasIr }
  type : String := ""

/-- Whether a line opens the block of a device. -/
def isDeviceHeader (line : String) : Bool := Text.beginsWith line "Device is a"

/-- Reads a size of whole megabytes in front of a slash. -/
def megabytes (text : String) : UInt64 :=
  match Text.cut text "/" with
  | some (count, _) => ((Numeral.word64? (Text.trim count)).getD 0) * (1024 * 1024)
  | none => 0

/-- Sets the part of a device that a field names. -/
def setDeviceField (d : Device) (field : String × String) : Device :=
  let value := field.2
  match field.1 with
  | "Enclosure #" => { d with drive.enclosure := value }
  | "Slot #" => { d with drive.slot := value }
  | "Model Number" => { d with drive.model := value }
  | "Firmware Revision" => { d with drive.firmware := value }
  | "Serial No" => { d with drive.serial := value }
  | "SAS Address" => { d with drive.ids.sasAddress := Identifier.canonical? value }
  | "State" => { d with drive.status := value }
  | "Size (in MB)/(in sectors)" => { d with drive.size := megabytes value }
  | "Protocol" => { d with drive.protocol := value }
  | "Drive Type" =>
    let d := { d with type := value }
    if Text.holds (Text.upper value) "SSD" then { d with drive.rotation := 1 } else d
  | "Device Type" => { d with type := value }
  | _ => d

/-- Whether a device is a disk: present, of some size, and of a type that is no enclosure and is
determined. -/
def Device.isDisk (d : Device) : Bool :=
  let type := Text.lower d.type
  d.drive.size != 0 && d.drive.status != "Missing (MIS)" &&
    !(Text.holds type "undetermined" || Text.holds type "enclosure")

/-- Reads the block of a device. -/
def device (block : String × List String) : Device :=
  (Listing.fields ":" block.2).foldl setDeviceField {}

/-- The disks of the devices' section. -/
def disks (lines : List String) : List PhysicalDrive :=
  (((Listing.blocks isDeviceHeader lines).map device).filter Device.isDisk).map (·.drive)

/-! ## Inventories -/

/-- Moves the drives at the named places out of the pool, in the order of the places; what remains
of the pool comes second. -/
def gather (log : Logger) (label : String) :
    List String → List PhysicalDrive → Traced (List PhysicalDrive × List PhysicalDrive)
  | [], pool => pure ([], pool)
  | place :: places, pool =>
    match Pool.take? (fun d => d.position == place) pool with
    | some (d, pool) => do
      let (members, pool) ← gather log label places pool
      return (d :: members, pool)
    | none => do
      log.debug (label ++ ": member " ++ place ++ " not found")
      gather log label places pool

/-- Gives each volume its members out of the pool, the first volume first; what remains of the pool
comes second. -/
def assemble (log : Logger) :
    List NamedVolume → List PhysicalDrive → Traced (List VolumeRecord × List PhysicalDrive)
  | [], pool => pure ([], pool)
  | v :: vs, pool => do
    let (members, pool) ← gather log v.record.label v.memberPlaces pool
    let (records, pool) ← assemble log vs pool
    return ({ v.record with members } :: records, pool)

/-- Asks the tool for its controllers. -/
def list (tool : Tool) : Attempt (List ListedController) := do
  let output ← tool.run ["LIST"]
  return controllers (Text.lines output)

/-- Asks the tool for everything it knows of a controller. -/
def decode (tool : Tool) (log : Logger) (c : ListedController) : Attempt Inventory := do
  let output ← tool.run [c.adapterId, "DISPLAY"]
  let content := content (Text.lines output)
  let controllerLines := sectionLines .controller content
  let volumeLines := sectionLines .volumes content
  let deviceLines := sectionLines .devices content
  log.debug (s!"got {controllerLines.length} controller, {volumeLines.length} volume, " ++
    s!"{deviceLines.length} device lines")
  let record := (Listing.fields ":" controllerLines).foldl setControllerField {}
  let named ← volumes log volumeLines
  let named ← Listing.keepFirst log (·.record.key) VolumeKey.text [] named
  if deviceLines.isEmpty then throw (.unreadableOutput .sasIr .noDeviceSection)
  let pool ← Listing.keepFirst log PhysicalDrive.position Text.quoted [] (disks deviceLines)
  let (kept, exposed) ← assemble log named pool
  log.debug (s!"controller {c.adapterId}: {kept.length} volumes, " ++
    s!"{exposed.length} pass-through")
  return {
    controller := {
      record with
      adapterId := c.adapterId, pci := c.pci, productName := c.productName }
    volumes := kept
    exposed }

end StorageInventory.SasIr
