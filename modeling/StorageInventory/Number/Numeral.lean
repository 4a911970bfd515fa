/-!
# Numerals

Whole numbers read from text in a given radix, within a given bound, and printed in hexadecimal.
A numeral is one or more digits behind at most one sign; blanks, underscores and separators are no
part of it.
-/

namespace StorageInventory.Numeral

/-- The value of a digit below `radix`, for radices up to sixteen. -/
def digit? (radix : Nat) (c : Char) : Option Nat :=
  let value? :=
    if '0' ≤ c ∧ c ≤ '9' then some (c.toNat - 48)
    else if 'a' ≤ c ∧ c ≤ 'f' then some (c.toNat - 87)
    else if 'A' ≤ c ∧ c ≤ 'F' then some (c.toNat - 55)
    else none
  value?.filter (· < radix)

/-- Reads digits that continue a number whose value so far is `value`. -/
def continue? (radix : Nat) : Nat → List Char → Option Nat
  | value, [] => some value
  | value, c :: cs => (digit? radix c).bind fun d => continue? radix (value * radix + d) cs

/-- The number that one or more digits stand for. -/
def digits? (radix : Nat) (cs : List Char) : Option Nat :=
  if cs.isEmpty then none else continue? radix 0 cs

/-- Reads a number below `bound`; a plus sign may stand in front. -/
def natural? (radix bound : Nat) (s : String) : Option Nat :=
  let digits := match s.toList with
    | '+' :: cs => cs
    | cs => cs
  (digits? radix digits).filter (· < bound)

/-- Reads a decimal number from `-bound` up to but not including `bound`; a sign may stand in
front. -/
def integer? (bound : Nat) (s : String) : Option Int :=
  match s.toList with
  | '-' :: cs => ((digits? 10 cs).filter (· ≤ bound)).map fun n => -(n : Int)
  | _ => (natural? 10 bound s).map fun n => (n : Int)

/-- Reads a 16-bit word in decimal. -/
def word16? (s : String) : Option UInt16 := (natural? 10 UInt16.size s).map UInt16.ofNat

/-- Reads a 32-bit word in decimal. -/
def word32? (s : String) : Option UInt32 := (natural? 10 UInt32.size s).map UInt32.ofNat

/-- Reads a 32-bit word in hexadecimal. -/
def hex32? (s : String) : Option UInt32 := (natural? 16 UInt32.size s).map UInt32.ofNat

/-- Reads a 64-bit word in decimal. -/
def word64? (s : String) : Option UInt64 := (natural? 10 UInt64.size s).map UInt64.ofNat

/-- Reads a 64-bit word in hexadecimal. -/
def hex64? (s : String) : Option UInt64 := (natural? 16 UInt64.size s).map UInt64.ofNat

/-- Reads a signed 16-bit number in decimal. -/
def int16? (s : String) : Option Int16 := (integer? 0x8000 s).map Int16.ofInt

/-- The text behind enough of the character `fill` to be `width` characters long. -/
def padStart (width : Nat) (fill : Char) (cs : List Char) : List Char :=
  List.replicate (width - cs.length) fill ++ cs

/-- A number in small hexadecimal digits, with leading zeros up to `width`. -/
def hex (width n : Nat) : String := String.ofList (padStart width '0' (Nat.toDigits 16 n))

/-- A number in decimal digits, with leading zeros up to `width`. -/
def padded (width n : Nat) : String := String.ofList (padStart width '0' (Nat.toDigits 10 n))

end StorageInventory.Numeral
