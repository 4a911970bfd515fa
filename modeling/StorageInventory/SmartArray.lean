import StorageInventory.Identifier
import StorageInventory.Inventory
import StorageInventory.Listing
import StorageInventory.Size
import StorageInventory.Tool

/-!
# Smart Array listings

The output of the Smart Array tool. The listing of controllers has slots and no addresses, so a
controller is found by reading one after the other. Volumes are known by their device file and list
their members; drives outside of volumes are unassigned, and the host may see them or not.
-/

namespace StorageInventory.SmartArray

/-- The tool's names of the levels. -/
def levels : List (String × RaidLevel) :=
  [("0", .raid0), ("1", .raid1), ("5", .raid5), ("6", .raid6), ("1+0", .raid10), ("0+1", .raid01)]

/-! ## Controllers -/

/-- Reads the row of a controller, such as `Smart Array P440ar in Slot 0 (Embedded)`. -/
def controller? (line : String) : Option ListedController := do
  let (product, rest) ← Text.cut (Text.trim line) " in Slot "
  let slot ← (Text.words rest).head?
  return { adapterId := slot, productName := product }

/-- The controllers of a listing. -/
def controllers (lines : List String) : List ListedController := lines.filterMap controller?

/-- How the banner of a controller begins. -/
def bannerMarks : List String := ["Smart Array ", "Smart HBA", "Dynamic Smart Array "]

/-- Whether a line is the banner of a controller. -/
def isBanner (line : String) : Bool :=
  bannerMarks.any (Text.beginsWith line ·) && Text.holds line "in Slot"

/-- Whether a line opens the block of an array. -/
def isArrayHeader (line : String) : Bool := Text.beginsWith line "Array: "

/-- The line that opens a block of unassigned drives. -/
def unassigned : String := "unassigned"

/-- Whether a line opens the part with arrays and drives. -/
def isDriveSection (line : String) : Bool := isArrayHeader line || line == unassigned

/-- Whether a line opens the part with enclosure processors, where the drives end. -/
def isProcessor (line : String) : Bool := Text.beginsWith line "SEP (Vendor ID"

/-- Splits the details of a controller into the lines about it, from its banner on, and the lines
about arrays and drives. -/
def parts (lines : List String) : List String × List String :=
  let lines := (lines.map Text.trim).filter (!·.isEmpty)
  let opened := lines.dropWhile fun line =>
    !(isBanner line || isDriveSection line || isProcessor line)
  let own := opened.takeWhile fun line => !(isDriveSection line || isProcessor line)
  let others := (opened.drop own.length).takeWhile (!isProcessor ·)
  (own, others)

/-- Sets the part of a controller's record that a field names. Serial number and firmware are those
named first, and one count of batteries above zero is enough. -/
def setControllerField (record : ControllerRecord) (field : String × String) :
    ControllerRecord :=
  let value := field.2
  match field.1 with
  | "Serial Number" => if record.serial.isEmpty then { record with serial := value } else record
  | "Firmware Version" =>
    if record.firmware.isEmpty then { record with firmware := value } else record
  | "Battery/Capacitor Count" =>
    { record with
      battery := record.battery.map (· || (Numeral.word32? value).any (0 < ·)) }
  | "PCI Address (Domain:Bus:Device.Function)" => { record with pci := PciAddress.ofText? value }
  | _ => record

/-- Reads the record of a controller; a battery that is not counted is absent. -/
def adapter (lines : List String) : ControllerRecord :=
  (Listing.fields ": " lines).foldl setControllerField { battery := some false }

/-! ## Drives -/

/-- Whether a line opens the block of a drive. -/
def isDriveHeader (line : String) : Bool := Text.beginsWith line "physicaldrive"

/-- Whether a line opens the block of a drive or of what is no drive. -/
def isHeader (line : String) : Bool :=
  isDriveHeader line || Text.beginsWith line "Enclosure " || Text.beginsWith line "Expander "

/-- The drive of a header, such as `physicaldrive 1I:1:11` in enclosure `1I:1` and slot `11`. -/
def ofHeader (line : String) : PhysicalDrive :=
  let start : PhysicalDrive := { family := .smartArray }
  match Text.words line with
  | _ :: id :: _ =>
    match Text.cutLast id ":" with
    | some (enclosure, slot) => { start with enclosure, slot }
    | none => start
  | _ => start

/-- Port and box of an enclosure; an enclosure without a colon has neither. -/
def portAndBox (enclosure : String) : String × String := (Text.cut enclosure ":").getD ("", "")

/-- A drive, and whether the host sees it. -/
abbrev SeenDrive := PhysicalDrive × Bool

/-- Sets the part of a drive that a field names. -/
def setDriveField (seen : SeenDrive) (field : String × String) : SeenDrive :=
  let (d, exposed) := seen
  let value := field.2
  let set (d : PhysicalDrive) : SeenDrive := (d, exposed)
  match field.1 with
  | "Port" => set { d with enclosure := value ++ ":" ++ (portAndBox d.enclosure).2 }
  | "Box" => set { d with enclosure := (portAndBox d.enclosure).1 ++ ":" ++ value }
  | "Bay" => set { d with slot := value }
  | "Status" => set { d with status := value }
  | "Interface Type" =>
    let protocol := (Text.words value).getLast?.getD value
    if Text.beginsWith value "Solid State" then set { d with protocol, rotation := 1 }
    else set { d with protocol }
  | "Size" => set { d with size := Size.ofText .decimal value }
  | "Drive exposed to OS" => (d, Text.sameLetters value "true")
  | "Rotational Speed" =>
    match Numeral.word32? value with
    | some rotation => set { d with rotation }
    | none => seen
  | "Firmware Revision" => set { d with firmware := value }
  | "Serial Number" => set { d with serial := value }
  | "Model" => set { d with model := Text.spaced value }
  | "Current Temperature (C)" => set { d with temperature := Numeral.int16? value }
  | "PHY Transfer Rate" =>
    set { d with linkSpeed := ((Text.cut value ", ").map (·.1)).getD value }
  | "WWID" | "SAS Address" =>
    if d.ids.sasAddress.isNone then
      set { d with ids.sasAddress := Identifier.canonical? value }
    else seen
  | _ => seen

/-- Reads a block; one that is not opened by a drive has none. -/
def drive? (block : String × List String) : Option SeenDrive :=
  if isDriveHeader block.1 then
    some ((Listing.fields ": " block.2).foldl setDriveField (ofHeader block.1, false))
  else none

/-- The drives of a list of lines. -/
def drives (lines : List String) : List SeenDrive :=
  (Listing.blocks isHeader lines).filterMap drive?

/-! ## Volumes -/

/-- Splits the lines about drives into the blocks of arrays and the lines of all unassigned
blocks. Lines in front of the first header are a block of their own. -/
def arrays (lines : List String) : List (List String) × List String :=
  let cut := Listing.cut isDriveSection lines
  let first := if cut.preamble.isEmpty then [] else [cut.preamble]
  let whole := cut.blocks.map fun (header, body) => header :: body
  let (others, own) := whole.partition fun block => block.head? == some unassigned
  (first ++ own, others.flatten)

/-- Whether a line opens the block of a volume. -/
def isVolumeHeader (line : String) : Bool := Text.beginsWith line "Logical Drive: "

/-- Whether a line opens the first member of a volume, and is not about a drive in passing. -/
def isMemberHeader (line : String) : Bool := isDriveHeader line && (Text.words line).length == 2

/-- Sets the part of a volume that a field names. -/
def setVolumeField (v : VolumeRecord) (field : String × String) : VolumeRecord :=
  let value := field.2
  match field.1 with
  | "Size" => { v with size := Size.ofText .decimal value }
  | "Fault Tolerance" => { v with level := .ofTable levels value }
  | "Strip Size" => { v with stripeSize := Size.ofText .binary value }
  | "Status" => { v with status := value }
  | "Disk Name" => { v with key := .devicePath value }
  | _ => v

/-- Reads the block of a volume, its fields up to the first member. -/
def volume (block : String × List String) : VolumeRecord :=
  let own := block.2.takeWhile (!isMemberHeader ·)
  let others := block.2.dropWhile (!isMemberHeader ·)
  let label := "vol:" ++ Text.trim ((Text.after? block.1 "Logical Drive: ").getD "")
  let start : VolumeRecord := { key := .devicePath "", label }
  let v := (Listing.fields ":" own).foldl setVolumeField start
  { v with members := (drives others).map (·.1) }

/-- The volumes of an array. -/
def volumes (array : List String) : List VolumeRecord :=
  (Listing.blocks isVolumeHeader array).map volume

/-! ## Inventories -/

/-- Asks the tool for its controllers. -/
def list (tool : Tool) : Attempt (List ListedController) := do
  let output ← tool.run ["controller", "all", "show"]
  return controllers (Text.lines output)

/-- Asks the tool for everything it knows of a controller. -/
def decode (tool : Tool) (log : Logger) (c : ListedController) : Attempt Inventory := do
  let output ← tool.run ["controller", "slot=" ++ c.adapterId, "show", "config", "detail"]
  let (own, others) := parts (Text.lines output)
  log.debug s!"got {own.length} controller lines, {others.length} array/drive lines"
  if own.isEmpty then throw (.unreadableOutput .smartArray .noControllerBlock)
  let record := adapter own
  let (blocks, loose) := arrays others
  let kept ←
    Listing.keepFirst log VolumeRecord.key VolumeKey.text [] (blocks.flatMap volumes)
  let seen := drives loose
  let exposed := (seen.filter (·.2)).map (·.1)
  let unconfigured := (seen.filter (!·.2)).map (·.1)
  log.debug (s!"slot {c.adapterId}: {kept.length} volumes, {exposed.length} pass-through, " ++
    s!"{unconfigured.length} unassigned")
  return {
    controller := {
      record with
      adapterId := c.adapterId, pci := record.pci <|> c.pci, productName := c.productName }
    volumes := kept
    exposed
    unconfigured }

/-- Reads controllers one after the other until one has the address. One that cannot be read is
passed over. -/
def findAt (tool : Tool) (log : Logger) (address : PciAddress) :
    List ListedController → Attempt Inventory
  | [] => throw (.controllerNotFound .smartArray address)
  | c :: cs => do
    match ← liftM (decode tool log c).run with
    | .ok inventory =>
      if inventory.controller.pci.any (·.sameSlot address) then return inventory
      else findAt tool log address cs
    | .error failure =>
      log.debug ("slot " ++ c.adapterId ++ " skipped: " ++ failure.message)
      findAt tool log address cs

/-- Asks the tool for everything it knows of the controller at an address. -/
def bind (tool : Tool) (log : Logger) (address : PciAddress) : Attempt Inventory := do
  findAt tool log address (← list tool)

end StorageInventory.SmartArray
