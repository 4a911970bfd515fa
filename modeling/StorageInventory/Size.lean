import StorageInventory.Number.Binary64
import StorageInventory.Text.Search

/-!
# Sizes

Sizes in bytes as tools print them, a number and a unit in a text, and as a report prints them,
one place in the decimal unit that fits.
-/

namespace StorageInventory

/-- What the units of a tool are powers of. -/
inductive SizeBase
  | decimal
  | binary
  deriving DecidableEq, Repr

namespace SizeBase

/-- The factor from one unit to the next. -/
def factor : SizeBase → Nat
  | .decimal => 1000
  | .binary => 1024

end SizeBase

namespace Size

/-- The units of size, each with the power of the base it stands for. -/
def units : List (String × Nat) :=
  [("KB", 1), ("MB", 2), ("GB", 3), ("TB", 4), ("PB", 5), ("EB", 6)]

/-- The bytes in the first of `units` that stands in the text, zero when none does. -/
def unitBytes (base : SizeBase) (text : String) : Nat :=
  match units.find? fun (name, _) => Text.holds text name with
  | some (_, power) => Nat.pow base.factor power
  | none => 0

/-- The greatest size. -/
def greatest : Nat := UInt64.size - 1

/-- The bytes in `number` units of the given size. -/
def inUnits (number : String) (unit : Nat) : UInt64 :=
  match Binary64.read? number.toList with
  | some n => UInt64.ofNat ((n.times unit).clamped greatest)
  | none => 0

/-- Reads a size: the first word is the number, and the unit stands anywhere in the text. -/
def ofText (base : SizeBase) (text : String) : UInt64 :=
  match Text.words text with
  | [] => 0
  | number :: _ => inUnits number (unitBytes base text)

/-- The bytes in a gigabyte, the least unit of a report. -/
def gigabyte : Nat := 1000000000

/-- The number of a unit, moved to a greater unit as long as more than a thousand are left and a
greater unit exists. Between two moves only the whole part counts. -/
def fit : String → List String → Binary64 → String
  | unit, [], n => n.tenths ++ unit
  | unit, next :: rest, n =>
    if n.exceeds 1000 then
      let n := n.quotient 1000
      if n.exceeds 1000 then fit next rest (.ofNat (n.clamped greatest)) else n.tenths ++ next
    else n.tenths ++ unit

/-- A size in a report, such as `600.0GB`. Less than a gigabyte is shown as none. -/
def shown (bytes : Nat) : String :=
  let whole := ((Binary64.ofNat bytes).quotient gigabyte).clamped greatest
  if whole = 0 then "0B" else fit "GB" ["TB", "PB", "EB", "ZB", "YB"] (.ofNat whole)

end Size

end StorageInventory
