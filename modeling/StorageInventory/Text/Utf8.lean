/-!
# Text from bytes

Reading bytes as UTF-8. Bytes that are no character are an error for `decode?`; for `decodeLossy`
each longest start of a character that breaks off becomes one U+FFFD.
-/

namespace StorageInventory.Text.Utf8

/-- The character shown in place of bytes that are none. -/
def replacement : Char := '\uFFFD'

/-- The bytes that may follow the first byte of a character, each with its least and greatest
value; no list when no character starts so. -/
def following (first : UInt8) : Option (List (UInt8 × UInt8)) :=
  let any : UInt8 × UInt8 := (0x80, 0xBF)
  if first < 0x80 then some []
  else if first < 0xC2 then none
  else if first < 0xE0 then some [any]
  else if first = 0xE0 then some [(0xA0, 0xBF), any]
  else if first = 0xED then some [(0x80, 0x9F), any]
  else if first < 0xF0 then some [any, any]
  else if first = 0xF0 then some [(0x90, 0xBF), any, any]
  else if first < 0xF4 then some [any, any, any]
  else if first = 0xF4 then some [(0x80, 0x8F), any, any]
  else none

/-- The leading bytes that fit the given ranges, at most one for each range. -/
def fitting : List (UInt8 × UInt8) → List UInt8 → List UInt8
  | (low, high) :: ranges, b :: bytes =>
    if low ≤ b && b ≤ high then b :: fitting ranges bytes else []
  | _, _ => []

/-- The bits that a first byte gives to its character, when `more` bytes follow. -/
def leading (first : UInt8) (more : Nat) : Nat :=
  match more with
  | 0 => first.toNat
  | 1 => first.toNat % 0x20
  | 2 => first.toNat % 0x10
  | _ => first.toNat % 0x08

/-- Reads the character that starts with `first`, and how many bytes of `rest` belong to it. -/
def character (first : UInt8) (rest : List UInt8) : Char × Nat :=
  match following first with
  | none => (replacement, 0)
  | some ranges =>
    let tail := fitting ranges rest
    if tail.length = ranges.length then
      let code := tail.foldl (fun code b => code * 0x40 + b.toNat % 0x40)
        (leading first tail.length)
      (Char.ofNat code, tail.length)
    else (replacement, tail.length)

/-- Reads bytes as text, with U+FFFD where they are none. -/
def decodeLossy : List UInt8 → List Char
  | [] => []
  | first :: rest =>
    let (c, count) := character first rest
    c :: decodeLossy (rest.drop count)
  termination_by bytes => bytes.length
  decreasing_by
    rw [List.length_drop, List.length_cons]
    omega

/-- Reads bytes as text; none when they are not UTF-8. -/
def decode? (bytes : List UInt8) : Option String :=
  String.fromUTF8? (ByteArray.mk bytes.toArray)

end StorageInventory.Text.Utf8
