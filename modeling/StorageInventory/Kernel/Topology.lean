import StorageInventory.Drive
import StorageInventory.Identifier
import StorageInventory.Kernel.Attribute
import StorageInventory.Logger

/-!
# Block devices below a controller

The whole-disk block devices of the kernel that stand below the directory of one controller, by
length and text of their names. The class directory holds a link for each block device; the link
leads to `<device>/block/<name>`, and the last name of the device's directory is its SCSI address.
-/

namespace StorageInventory.Kernel

/-- A block device that was found: the place of its device, and its name. -/
structure BlockPlace where
  device : Place
  name : String
  deriving DecidableEq, Repr

namespace BlockPlace

/-- Cuts the place of a block device at its last directory `block`. -/
def ofPlace? : Place → Option BlockPlace
  | [] => none
  | step :: rest =>
    match ofPlace? rest with
    | some found => some { found with device := step :: found.device }
    | none =>
      if step = "block" ∧ ¬ rest.isEmpty then
        some { device := [], name := "/".intercalate rest }
      else none

/-- Whether a block device is below a place. One without names in front of its directory `block` has
no device, and is not even below the root. -/
def isBelow (b : BlockPlace) (top : Place) : Bool :=
  !b.device.isEmpty && top.isPrefixOf b.device

/-- The path of the device. -/
def devicePath (b : BlockPlace) : String := Path.ofPlace b.device

/-- The path of the block device itself. -/
def blockPath (b : BlockPlace) : String := Path.join (Path.join b.devicePath "block") b.name

end BlockPlace

/-- Whether a place is below a SCSI host and target. -/
def isScsi (place : Place) : Bool :=
  place.any (Text.beginsWith · "host") && place.any (Text.beginsWith · "target")

/-- Reads the entry of the class directory with a name. Partitions, and devices other than SCSI
when `scsiOnly`, are passed over. -/
def classEntry (log : Logger) (t : FileTree) (scsiOnly : Bool) (class_ name : String) :
    Traced (Option BlockPlace) :=
  let link := Path.join class_ name
  match t.place link with
  | .error e => do
    log.warn ("could not resolve " ++ link ++ ": " ++ e.message)
    return none
  | .ok place =>
    let path := Path.ofPlace place
    if t.holds (Path.join path "partition") || scsiOnly && !isScsi place then return none
    else match BlockPlace.ofPlace? place with
      | some found => return some found
      | none => do
        log.warn ("could not parse " ++ path)
        return none

/-- The selected scheduler of a list, the one in brackets; one alone is selected without them. -/
def selectedScheduler (list : String) : String :=
  let isBracket (c : Char) : Bool := c == '[' || c == ']'
  let bracketed := fun () =>
    match (Text.words list).find? fun w => Text.beginsWith w "[" && Text.endsWith w "]" with
    | some w => String.ofList (Chars.stripWhere isBracket w.toList)
    | none => ""
  match Text.words list with
  | [only] => if only.toList.any isBracket then bracketed () else only
  | _ => bracketed ()

/-- The world wide name in a device's identifier, which may be of another kind. -/
def wideName? (identifier : String) : Option String :=
  (Text.after? (Text.trim identifier) "naa.").bind Identifier.canonical?

/-- The SCSI address that the directory of a device is named by. Without one, a device that need
not be SCSI has the address zero. -/
def scsiAddress (b : BlockPlace) (scsiOnly : Bool) : Except Failure ScsiAddress :=
  match ScsiAddress.parse (b.device.getLast?.getD "") with
  | .ok address => .ok address
  | .error e =>
    if scsiOnly then .error (.malformedTopology b.devicePath (.badAddress e)) else .ok {}

/-- Reads what the kernel shows of a block device. -/
def blockDevice (log : Logger) (t : FileTree) (scsiOnly : Bool) (b : BlockPlace) :
    Attempt BlockDevice := do
  let device := b.devicePath
  let block := b.blockPath
  let scsi ← Attempt.ofOutcome (scsiAddress b scsiOnly)
  let sasAddress := (attribute? t device "sas_address").bind Identifier.canonical?
  match sasAddress with
  | some address => log.debug (b.name ++ " has sas_address " ++ address)
  | none => pure ()
  return {
    name := b.name
    path := device
    driver := linkedName t device "driver"
    model := attributeText t device "model"
    sectors := number t block "size"
    logicalBlockSize := (number t block "queue/logical_block_size").toUInt32
    physicalBlockSize := (number t block "queue/physical_block_size").toUInt32
    scheduler := ((attribute? t block "queue/scheduler").map selectedScheduler).getD ""
    scsi
    sasAddress
    wwn := (attribute? t device "wwid").bind wideName? }

/-- The order of the kernel's names: shorter ones first, and those of one length by their text. -/
def nameOrder (a b : String) : Ordering :=
  (compare a.utf8ByteSize b.utf8ByteSize).then (compare a b)

/-- The block devices below a controller, in the order of their names. -/
def blockDevices (log : Logger) (t : FileTree) (root controller : String) (scsiOnly : Bool) :
    Attempt (List BlockDevice) := do
  let class_ := Path.join root "class/block"
  match t.isDirectory controller, t.place controller with
  | true, .ok top =>
    if t.isDirectory class_ then
      let found ← liftM ((t.list class_).mapM (classEntry log t scsiOnly class_))
      let below := (found.filterMap id).filter (·.isBelow top)
      let devices ← below.mapM (blockDevice log t scsiOnly)
      log.debug (Path.ofPlace top ++ s!": {devices.length} block devices")
      return devices.mergeSort fun a b => (nameOrder a.name b.name).isLE
    else throw (.malformedTopology class_ .noBlockClass)
  | _, _ => throw (.malformedTopology controller .noController)

end StorageInventory.Kernel
