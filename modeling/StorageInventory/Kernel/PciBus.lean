import StorageInventory.Controller
import StorageInventory.Kernel.Attribute
import StorageInventory.Logger

/-!
# Storage controllers on the PCI bus

The devices of the PCI bus whose class is mass storage, in the order of their addresses, with the
bus errors that were counted for them.
-/

namespace StorageInventory.Kernel

/-- The base class of storage controllers. -/
def massStorage : UInt32 := 1

/-- The files that count errors that cannot be corrected. -/
def uncorrectableFiles : List String := ["aer_dev_fatal", "aer_dev_nonfatal"]

/-- The file that counts errors that were corrected. -/
def correctableFile : String := "aer_dev_correctable"

/-- Reads a line with the name of an error and its count. There is no record of an error that was
not counted, nor of a total. -/
def errorRecord? (line : String) : Option String := do
  let (name, count) ← Chars.cutLastWhere Chars.isBlank (Text.trim line).toList
  let n ← Numeral.word64? (String.ofList count)
  let name := String.ofList name
  if n = 0 ∨ Text.beginsWith name "TOTAL_" then none
  else some (Text.trim name ++ s!": {n}")

/-- The records of a file of error counts. -/
def errorRecords (t : FileTree) (device file : String) : List String :=
  match attribute? t device file with
  | some text => (Text.lines text).filterMap errorRecord?
  | none => []

/-- Reads the device at a path; none when it is no storage controller. -/
def pciDevice? (t : FileTree) (address : PciAddress) (path : String) : Option PciDevice :=
  let classCode := (number t path "class").toUInt32
  if classCode >>> 16 = massStorage then some {
    address
    path
    vendorId := (number t path "vendor").toUInt16
    deviceId := (number t path "device").toUInt16
    classCode
    driver := linkedName t path "driver"
    numaNode := (attribute? t path "numa_node").bind Numeral.word32?
    uncorrectableErrors := uncorrectableFiles.flatMap (errorRecords t path)
    correctableErrors := errorRecords t path correctableFile }
  else none

/-- Reads the entry of the bus directory with a name. -/
def busEntry (log : Logger) (t : FileTree) (bus name : String) : Traced (Option PciDevice) :=
  match PciAddress.ofText? name with
  | none => do
    log.debug s!"skipping {name}: not a PCI address"
    return none
  | some address => do
    let path := Path.join bus name
    match pciDevice? t address ((t.canonical path).toOption.getD path) with
    | none => return none
    | some device =>
      log.debug (s!"found {device.address.text} class " ++
        Numeral.hex 6 device.classCode.toNat ++ " driver '" ++ device.driver ++ "'")
      return some device

/-- The storage controllers of the bus, in the order of their addresses. -/
def pciDevices (log : Logger) (t : FileTree) (root : String) : Attempt (List PciDevice) := do
  let bus := Path.join root "bus/pci/devices"
  if t.isDirectory bus then
    let found ← liftM ((t.list bus).mapM (busEntry log t bus))
    return (found.filterMap id).mergeSort fun a b => (a.address.order b.address).isLE
  else throw (.malformedTopology bus .noPciBus)

end StorageInventory.Kernel
