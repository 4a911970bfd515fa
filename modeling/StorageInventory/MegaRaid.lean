import StorageInventory.Identifier
import StorageInventory.Inventory
import StorageInventory.Listing
import StorageInventory.Size
import StorageInventory.Tool

/-!
# MegaRAID listings

The output of the MegaRAID tool. Volumes are known by their SCSI target and list their members;
the list of drives holds every drive of the controller, members included. Each listing is a list of
blocks, and a block is read on its own, from its header and its fields.
-/

namespace StorageInventory.MegaRaid

/-- The tool's names of the levels. -/
def levels : List (String × RaidLevel) :=
  [("Primary-0, Secondary-0, RAID Level Qualifier-0", .raid0),
    ("Primary-1, Secondary-0, RAID Level Qualifier-0", .raid1),
    ("Primary-5, Secondary-0, RAID Level Qualifier-3", .raid5),
    ("Primary-6, Secondary-0, RAID Level Qualifier-3", .raid6),
    ("Primary-1, Secondary-3, RAID Level Qualifier-0", .raid10)]

/-! ## Controllers -/

/-- Whether a line opens the block of a controller. -/
def isControllerHeader (line : String) : Bool :=
  Text.beginsWith (Text.trim line) "PCI information for Controller"

/-- The number of a controller, the last word of its header. -/
def controllerNumber? (header : String) : Option UInt32 :=
  (Text.words header).getLast?.bind Numeral.word32?

/-- Sets the part of an address that a field names. -/
def setAddressField (address : PciAddress) (field : String × String) : PciAddress :=
  match Numeral.hex32? field.2 with
  | none => address
  | some n =>
    match field.1 with
    | "Bus Number" => { address with bus := n }
    | "Device Number" => { address with device := n }
    | "Function Number" => { address with function := n }
    | _ => address

/-- Reads the block of a controller; without a number in its header there is none. -/
def controller? (log : Logger) (block : String × List String) :
    Traced (Option ListedController) :=
  match controllerNumber? block.1 with
  | some n =>
    let address := (Listing.fields ":" block.2).foldl setAddressField {}
    pure (some { adapterId := toString n, pci := some address })
  | none => do
    log.debug ("bad controller header: " ++ Text.trim block.1)
    return none

/-- The controllers of a listing. -/
def controllers (log : Logger) (lines : List String) : Traced (List ListedController) := do
  let found ← (Listing.blocks isControllerHeader lines).mapM (controller? log)
  return found.filterMap id

/-- Sets the part of a controller's record that a field names. -/
def setAdapterField (record : ControllerRecord) (field : String × String) : ControllerRecord :=
  match field.1 with
  | "Product Name" => { record with productName := field.2 }
  | "Serial No" => { record with serial := field.2 }
  | "BIOS Version" => { record with bios := field.2 }
  | "FW Version" => { record with firmware := field.2 }
  | "BBU" => { record with battery := some (Text.sameLetters field.2 "present") }
  | _ => record

/-- Reads the record of a controller, up to the tool's clock; a battery that is not mentioned there
is absent. -/
def adapter (lines : List String) : ControllerRecord :=
  ((Listing.fields ":" lines).takeWhile (·.1 != "Current Time")).foldl setAdapterField
    { battery := some false }

/-! ## Drives -/

/-- Reads the place of a drive, such as `DiskGroup: 0, Span: 0, Arm: 1`. -/
def position? (text : String) : Option ArrayPosition :=
  let keys := ["DiskGroup:", "Span:", "Arm:"]
  if !keys.all (Text.holds text ·) then none
  else
    let numbers := Text.piecesAt (keys.foldl Text.remove text) ','
    match numbers.mapM fun n => Numeral.word16? (Text.trim n) with
    | some [group, span, arm] => some { group, span, arm }
    | _ => none

/-- Reads the degrees Celsius in front of the letter `C`. -/
def temperature? (text : String) : Option Int16 := do
  let (degrees, _) ← Text.cut (Text.lower text) "c"
  let n ← Binary64.read? (Text.trim degrees).toList
  return Int16.ofInt (n.clampedInt 0x7FFF)

/-- Whether a field opens the block of a drive. -/
def isDriveHeader (field : String × String) : Bool := field.1 == "Enclosure Device ID"

/-- Sets the part of a drive that a field names. -/
def setDriveField (d : PhysicalDrive) (field : String × String) :
    Except Failure PhysicalDrive :=
  let value := field.2
  match field.1 with
  | "Drive's position" | "Drive's postion" =>
    match position? value with
    | some position => .ok { d with ids.position := some position }
    | none => .error (.unreadableOutput .megaRaid (.badDrivePosition value))
  | "WWN" => .ok { d with ids.wwn := Identifier.canonical? value }
  | "Slot Number" => .ok { d with slot := value }
  | "PD Type" => .ok { d with protocol := value }
  | "Raw Size" => .ok { d with size := Size.ofText .binary value }
  | "Firmware state" => .ok { d with status := value }
  | "Device Firmware Level" => .ok { d with firmware := value }
  | "Inquiry Data" => .ok { d with model := Text.spaced value, ids.inquiry := some value }
  | "Device Speed" => .ok { d with linkSpeed := value }
  | "Link Speed" => .ok (if d.linkSpeed.isEmpty then { d with linkSpeed := value } else d)
  | "Media Type" =>
    .ok (if Text.holds (Text.lower value) "solid state" then { d with rotation := 1 } else d)
  | "Drive Temperature" => .ok { d with temperature := temperature? value }
  | "Drive has flagged a S.M.A.R.T alert" =>
    .ok { d with smartAlert := Text.sameLetters value "yes" }
  | "Media Error Count" => .ok { d with mediaErrors := (Numeral.word32? value).getD 0 }
  | "Device Id" => .ok { d with ids.deviceId := Numeral.word16? value }
  | _ => .ok d

/-- Reads the block of a drive. -/
def drive (block : (String × String) × List (String × String)) : Except Failure PhysicalDrive :=
  block.2.foldlM setDriveField { family := .megaRaid, enclosure := block.1.2 }

/-- The drives of a listing. -/
def drives (fields : List (String × String)) : Except Failure (List PhysicalDrive) :=
  (Listing.blocks isDriveHeader fields).mapM drive

/-- The drives of a listing, with a note of their number. -/
def countedDrives (log : Logger) (fields : List (String × String)) :
    Attempt (List PhysicalDrive) := do
  let found ← Attempt.ofOutcome (drives fields)
  log.debug s!"found {found.length} physical drives"
  return found

/-! ## Volumes -/

/-- Reads group and target of a volume, such as `1 (Target Id: 0)`. -/
def volumeId? (text : String) : Option (UInt16 × UInt16) :=
  if !Text.holds text "(Target Id:" then none
  else match Text.words (Text.remove (Text.remove text "(Target Id:") ")") with
    | [group, target] => do return (← Numeral.word16? group, ← Numeral.word16? target)
    | _ => none

/-- Whether a field opens the block of a volume. -/
def isVolumeHeader (field : String × String) : Bool := field.1 == "Virtual Drive"

/-- Sets the part of a volume that a field names. A RAID 1 over several spans is listed with the
level RAID 1. -/
def setVolumeField (v : VolumeRecord) (field : String × String) : VolumeRecord :=
  let value := field.2
  match field.1 with
  | "RAID Level" => { v with level := .ofTable levels value }
  | "Size" => { v with size := Size.ofText .binary value }
  | "State" => { v with status := value }
  | "Strip Size" => { v with stripeSize := Size.ofText .binary value }
  | "Span Depth" =>
    if v.level = .raid1 ∧ (Numeral.word32? value).any (1 < ·) then { v with level := .raid01 }
    else v
  | "Current Cache Policy" => { v with cachePolicy := writePolicy value }
  | _ => v

/-- Reads the block of a volume: its fields up to the number of spans, its members behind. Without
an identifier in its header there is none. -/
def volume? (log : Logger) (block : (String × String) × List (String × String)) :
    Attempt (Option VolumeRecord) := do
  match volumeId? block.1.2 with
  | none =>
    log.debug ("bad virtual drive id: " ++ block.1.2)
    return none
  | some (group, target) =>
    let (own, others) := Listing.around (·.1 == "Number of Spans") block.2
    let start : VolumeRecord := { key := .target target, label := s!"grp:{group}" }
    let v := own.foldl setVolumeField start
    let members ← countedDrives log others
    log.debug (s!"ld grp:{group}, tgt:{target}, lv:" ++ v.level.name ++
      s!", {members.length} members")
    return some { v with members }

/-- The volumes of a listing. -/
def volumes (log : Logger) (fields : List (String × String)) : Attempt (List VolumeRecord) := do
  let found ← (Listing.blocks isVolumeHeader fields).mapM (volume? log)
  let found := found.filterMap id
  log.debug s!"found {found.length} logical drives"
  return found

/-! ## Inventories -/

/-- Whether a listed drive is one of the members, going by world wide name or inquiry text. -/
def isMember (members : List PhysicalDrive) (d : PhysicalDrive) : Bool :=
  d.ids.wwn.any (fun w => members.any (·.ids.wwn == some w)) ||
    d.ids.inquiry.any (fun i => members.any (·.ids.inquiry == some i))

/-- Asks the tool for its controllers. -/
def list (tool : Tool) (log : Logger) : Attempt (List ListedController) := do
  let output ← tool.run ["-AdpGetPciInfo", "-aAll", "-NoLog"]
  liftM (controllers log (Text.lines output))

/-- Asks the tool for everything it knows of a controller. -/
def decode (tool : Tool) (log : Logger) (c : ListedController) : Attempt Inventory := do
  let name := "-a" ++ c.adapterId
  let output ← tool.run ["-AdpAllInfo", name, "-NoLog"]
  let record := adapter (Text.lines output)
  let output ← tool.run ["-LDPDInfo", name, "-NoLog"]
  let found ← volumes log (Listing.fields ":" (Text.lines output))
  let kept ← Listing.keepFirst log VolumeRecord.key VolumeKey.text [] found
  let output ← tool.run ["-PDList", name, "-NoLog"]
  let all ← countedDrives log (Listing.fields ":" (Text.lines output))
  let members := kept.flatMap (·.members)
  let others := all.filter (!isMember members ·)
  let exposed := others.filter (·.status == "JBOD")
  let unconfigured := others.filter (·.status != "JBOD")
  log.debug (s!"adapter {c.adapterId}: {kept.length} volumes, {exposed.length} pass-through, " ++
    s!"{unconfigured.length} unconfigured")
  return {
    controller := { record with adapterId := c.adapterId, pci := c.pci }
    volumes := kept
    exposed
    unconfigured }

end StorageInventory.MegaRaid
