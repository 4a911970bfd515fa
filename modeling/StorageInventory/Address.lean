import StorageInventory.Number.Numeral
import StorageInventory.Text.Search

/-!
# Bus addresses

The places of a controller on the PCI bus and of a device on a SCSI bus, their spellings, and the
order of PCI addresses.
-/

namespace StorageInventory

/-- Why a text is no address. -/
inductive AddressError
  | pci (text : String)
  | scsi (text : String)
  deriving DecidableEq, Repr

namespace AddressError

/-- The message for a text that is no address. -/
def message : AddressError → String
  | .pci text => s!"invalid PCI address: {text}"
  | .scsi text => s!"invalid SCSI address: {text}"

end AddressError

/-- A place on the PCI bus. -/
structure PciAddress where
  domain : UInt32 := 0
  bus : UInt32 := 0
  device : UInt32 := 0
  function : UInt32 := 0
  deriving DecidableEq, Repr

namespace PciAddress

/-- Whether two addresses agree in all but the domain, which few tools report. -/
def sameSlot (a b : PciAddress) : Bool :=
  a.bus == b.bus && a.device == b.device && a.function == b.function

/-- The spelling `domain:bus:device.function` in hexadecimal. -/
def text (a : PciAddress) : String :=
  let hex (width : Nat) (n : UInt32) := Numeral.hex width n.toNat
  hex 4 a.domain ++ ":" ++ hex 2 a.bus ++ ":" ++ hex 2 a.device ++ "." ++ hex 1 a.function

/-- The four fields of a spelling, cut at the first two colons and the first point after them. -/
def fields? (s : String) : Option (String × String × String × String) := do
  let (domain, rest) ← Text.cut (Text.trim s) ":"
  let (bus, rest) ← Text.cut rest ":"
  let (device, function) ← Text.cut rest "."
  return (domain, bus, device, function)

/-- Reads an address, its fields in hexadecimal of any width. -/
def ofText? (s : String) : Option PciAddress := do
  let (domain, bus, device, function) ← fields? s
  return {
    domain := ← Numeral.hex32? domain
    bus := ← Numeral.hex32? bus
    device := ← Numeral.hex32? device
    function := ← Numeral.hex32? function }

/-- Reads an address or says why there is none. -/
def parse (s : String) : Except AddressError PciAddress :=
  match ofText? s with
  | some address => .ok address
  | none => .error (.pci s)

/-- The order of addresses: by domain, bus, device and function. -/
def order (a b : PciAddress) : Ordering :=
  (compare a.domain b.domain).then <| (compare a.bus b.bus).then <|
    (compare a.device b.device).then (compare a.function b.function)

end PciAddress

/-- A place on a SCSI bus. -/
structure ScsiAddress where
  host : UInt16 := 0
  channel : UInt16 := 0
  target : UInt16 := 0
  lun : UInt16 := 0
  deriving DecidableEq, Repr

namespace ScsiAddress

/-- The spelling `host:channel:target:lun` in decimal. -/
def text (a : ScsiAddress) : String := s!"{a.host}:{a.channel}:{a.target}:{a.lun}"

/-- Reads an address of four fields in decimal. -/
def ofText? (s : String) : Option ScsiAddress :=
  match (Text.piecesAt (Text.trim s) ':').mapM Numeral.word16? with
  | some [host, channel, target, lun] => some { host, channel, target, lun }
  | _ => none

/-- Reads an address or says why there is none. -/
def parse (s : String) : Except AddressError ScsiAddress :=
  match ofText? s with
  | some address => .ok address
  | none => .error (.scsi s)

end ScsiAddress

end StorageInventory
