import StorageInventory.Number.Numeral

/-!
# Binary64 numbers

The numbers of the IEEE 754 format binary64, in exact arithmetic: a number is a mantissa times a
power of two, and every operation rounds the exact result to the nearest number of the format, a
tie to the even mantissa. Decimal text is read with the same rounding.
-/

namespace StorageInventory

/-- A number of the format, `mantissa * 2 ^ exponent` when it is finite. -/
inductive Binary64
  | finite (negative : Bool) (mantissa : Nat) (exponent : Int)
  | infinite (negative : Bool)
  | nan
  deriving DecidableEq, Repr

namespace Binary64

/-- The quotient rounded to the nearest whole number, a tie to the even one. -/
def roundedQuotient (num den : Nat) : Nat :=
  let q := num / den
  let r := num % den
  if 2 * r < den then q else if den < 2 * r then q + 1 else q + q % 2

/-- The ratio `num / den` divided by `2 ^ exponent`, as a ratio of whole numbers. -/
def scaled (num den : Nat) (exponent : Int) : Nat × Nat :=
  (num * Nat.pow 2 (-exponent).toNat, den * Nat.pow 2 exponent.toNat)

/-- Whether `2 ^ exponent ≤ num / den`. -/
def reaches (num den : Nat) (exponent : Int) : Bool :=
  let (n, d) := scaled num den exponent
  d ≤ n

/-- The greatest `e` with `2 ^ e ≤ num / den`, for a positive ratio. -/
def magnitude (num den : Nat) : Int :=
  let estimate : Int := (Nat.log2 num : Int) - (Nat.log2 den : Int)
  if reaches num den estimate then estimate else estimate - 1

/-- The greatest and the least power of two that a mantissa of 53 bits is multiplied by. -/
def exponentRange : Int × Int := (971, -1074)

/-- The number of the format nearest to the ratio `num / den`; out of range it is infinite. -/
def nearest (negative : Bool) (num den : Nat) : Binary64 :=
  if num = 0 then .finite negative 0 0
  else
    let exponent := max (magnitude num den - 52) exponentRange.2
    let (n, d) := scaled num den exponent
    let mantissa := roundedQuotient n d
    if exponentRange.1 < exponent ∨ exponent = exponentRange.1 ∧ 0x20000000000000 ≤ mantissa then
      .infinite negative
    else .finite negative mantissa exponent

/-- A whole number, rounded to the format. -/
def ofNat (n : Nat) : Binary64 := nearest false n 1

/-- The ratio of whole numbers that a mantissa and an exponent stand for. -/
def ratio (mantissa : Nat) (exponent : Int) : Nat × Nat :=
  (mantissa * Nat.pow 2 exponent.toNat, Nat.pow 2 (-exponent).toNat)

/-- The product with a whole number that the format holds. -/
def times : Binary64 → Nat → Binary64
  | .finite negative mantissa exponent, k =>
    let (n, d) := ratio mantissa exponent
    nearest negative (n * k) d
  | .infinite negative, k => if k = 0 then .nan else .infinite negative
  | .nan, _ => .nan

/-- The quotient by a positive whole number that the format holds. -/
def quotient : Binary64 → Nat → Binary64
  | .finite negative mantissa exponent, k =>
    let (n, d) := ratio mantissa exponent
    nearest negative n (d * k)
  | x, _ => x

/-- The whole part of a number that is not negative, and at most `greatest`; a negative number and
one that is none count as zero. -/
def clamped (greatest : Nat) : Binary64 → Nat
  | .finite false mantissa exponent =>
    let (n, d) := ratio mantissa exponent
    min (n / d) greatest
  | .finite true _ _ => 0
  | .infinite negative => if negative then 0 else greatest
  | .nan => 0

/-- The number cut toward zero and kept from `-(greatest + 1)` to `greatest`. -/
def clampedInt (greatest : Nat) : Binary64 → Int
  | .finite true mantissa exponent =>
    let (n, d) := ratio mantissa exponent
    Int.negOfNat (min (n / d) (greatest + 1))
  | .infinite true => Int.negOfNat (greatest + 1)
  | x => (clamped greatest x : Int)

/-- Whether a number that is not negative is greater than `k`. -/
def exceeds : Binary64 → Nat → Bool
  | .finite negative mantissa exponent, k =>
    let (n, d) := ratio mantissa exponent
    !negative && k * d < n
  | .infinite negative, _ => !negative
  | .nan, _ => false

/-- The number in decimal with one place, an exact tie to the even digit. -/
def tenths : Binary64 → String
  | .finite _ mantissa exponent =>
    let (n, d) := ratio mantissa exponent
    let count := roundedQuotient (n * 10) d
    s!"{count / 10}.{count % 10}"
  | .infinite _ => "inf"
  | .nan => "NaN"

/-- The number nearest to `digits * 10 ^ power`. Powers far out of range are settled by the count
of digits alone. -/
def ofDecimal (negative : Bool) (digits : Nat) (power : Int) : Binary64 :=
  let size : Int := (Nat.toDigits 10 digits).length + power
  if digits = 0 then .finite negative 0 0
  else if 309 < size then .infinite negative
  else if size ≤ -324 then .finite negative 0 0
  else nearest negative (digits * Nat.pow 10 power.toNat) (Nat.pow 10 (-power).toNat)

/-- The digits at the front of a text, and the rest. -/
def digitRun (cs : List Char) : List Char × List Char := cs.span Char.isDigit

/-- Reads what may follow the digits of a decimal number, the power of ten behind the letter `e`;
nothing stands for the power zero. -/
def power? : List Char → Option Int
  | [] => some 0
  | e :: cs =>
    if e = 'e' ∨ e = 'E' then
      match cs with
      | '-' :: cs => (Numeral.digits? 10 cs).map fun n => -(n : Int)
      | '+' :: cs => (Numeral.digits? 10 cs).map fun n => (n : Int)
      | cs => (Numeral.digits? 10 cs).map fun n => (n : Int)
    else none

/-- Reads a number without its sign: digits with or without a point and a power of ten, or the
name of a number that is not finite, in any case of letters. -/
def unsigned? (negative : Bool) (cs : List Char) : Option Binary64 :=
  let name := cs.map Char.toLower
  if name = "inf".toList ∨ name = "infinity".toList then some (.infinite negative)
  else if name = "nan".toList then some .nan
  else
    let (whole, rest) := digitRun cs
    let (places, rest) := match rest with
      | '.' :: rest => digitRun rest
      | rest => ([], rest)
    match Numeral.digits? 10 (whole ++ places), power? rest with
    | some digits, some power => some (ofDecimal negative digits (power - places.length))
    | _, _ => none

/-- Reads a number; a sign may stand in front. -/
def read? (cs : List Char) : Option Binary64 :=
  match cs with
  | '-' :: cs => unsigned? true cs
  | '+' :: cs => unsigned? false cs
  | cs => unsigned? false cs

end Binary64

end StorageInventory
