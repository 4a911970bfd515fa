import StorageInventory.Json.Basic
import StorageInventory.Number.Numeral

/-!
# Reading JSON

Reading a JSON value from text. Each reader takes a value off the front of the text and gives what
is left; nothing but blanks may be left behind the last one. `budget` bounds the depth of the
reading; a value takes two steps at most for each character, so twice the length is enough.
-/

namespace StorageInventory.Json

/-- Whether JSON allows a character between tokens. -/
def isSpace (c : Char) : Bool := c == ' ' || c == '\n' || c == '\t' || c == '\r'

/-- The text without the space in front. -/
def skip (cs : List Char) : List Char := cs.dropWhile isSpace

/-- Reads the four hexadecimal digits of an escape. -/
def unit? (cs : List Char) : Option (Nat × List Char) :=
  match Numeral.digits? 16 (cs.take 4) with
  | some n => if cs.length < 4 then none else some (n, cs.drop 4)
  | none => none

/-- The character that a letter stands for behind a backslash. -/
def escapes : List (Char × Char) :=
  [('"', '"'), ('\\', '\\'), ('/', '/'), ('b', '\x08'), ('f', '\x0c'), ('n', '\n'), ('r', '\r'),
    ('t', '\t')]

/-- Reads an escape by code, behind the letter `u`. A character beyond the first plane is a pair of
escapes; none for half of a pair. -/
def codePoint? (cs : List Char) : Option (Option Char × List Char) := do
  let (high, rest) ← unit? cs
  if high < 0xD800 ∨ 0xE000 ≤ high then return (some (Char.ofNat high), rest)
  else match rest with
    | '\\' :: 'u' :: more => do
      let (low, after) ← unit? more
      if high < 0xDC00 ∧ 0xDC00 ≤ low ∧ low < 0xE000 then
        return (some (Char.ofNat (0x10000 + (high - 0xD800) * 0x400 + (low - 0xDC00))), after)
      else return (none, rest)
    | _ => return (none, rest)

/-- Reads a string behind its opening quote. The characters so far come in reverse, or not at all
once there was half of a pair. -/
def string? : Nat → Option (List Char) → List Char → Option (Option (List Char) × List Char)
  | 0, _, _ => none
  | _, _, [] => none
  | budget + 1, soFar, c :: cs =>
    if c = '"' then some (soFar.map List.reverse, cs)
    else if c = '\\' then
      match cs with
      | 'u' :: cs => do
        let (d?, rest) ← codePoint? cs
        string? budget (do return (← d?) :: (← soFar)) rest
      | e :: cs => do
        let d ← escapes.lookup e
        string? budget (soFar.map (d :: ·)) cs
      | [] => none
    else if c.toNat < 0x20 then none
    else string? budget (soFar.map (c :: ·)) cs

/-- Reads a string behind its opening quote, if it is a text. -/
def text? (budget : Nat) (cs : List Char) : Option (Option String × List Char) := do
  let (s?, rest) ← string? budget (some []) cs
  return (s?.map String.ofList, rest)

/-- Reads one or more digits. -/
def digits? (cs : List Char) : Option (List Char × List Char) :=
  let ds := cs.takeWhile Char.isDigit
  if ds.isEmpty then none else some (ds, cs.drop ds.length)

/-- Reads the digits in front of a point; a zero stands alone. -/
def whole? : List Char → Option (List Char × List Char)
  | '0' :: cs => if (cs.head?.any Char.isDigit) then none else some (['0'], cs)
  | cs => digits? cs

/-- Reads a fraction if there is one, and tells whether there is. -/
def fraction? : List Char → Option (Bool × List Char)
  | '.' :: cs => (digits? cs).map fun (_, rest) => (true, rest)
  | cs => some (false, cs)

/-- Reads a power of ten if there is one, and tells whether there is. -/
def power? : List Char → Option (Bool × List Char)
  | e :: cs =>
    if e = 'e' ∨ e = 'E' then
      let cs := match cs with
        | '+' :: cs | '-' :: cs => cs
        | cs => cs
      (digits? cs).map fun (_, rest) => (true, rest)
    else some (false, e :: cs)
  | [] => some (false, [])

/-- Reads a number without its sign. -/
def unsigned? (negative : Bool) (cs : List Char) : Option (Json × List Char) := do
  let (ds, cs) ← whole? cs
  let (hasFraction, cs) ← fraction? cs
  let (hasPower, cs) ← power? cs
  let n ← Numeral.digits? 10 ds
  if hasFraction || hasPower || (negative && n == 0) then return (.real, cs)
  else return (.int (if negative then -(n : Int) else n), cs)

/-- Reads a number. -/
def number? : List Char → Option (Json × List Char)
  | '-' :: cs => unsigned? true cs
  | cs => unsigned? false cs

mutual

/-- Reads a value, behind any space. -/
def value? : Nat → List Char → Option (Json × List Char)
  | 0, _ => none
  | budget + 1, cs =>
    match skip cs with
    | 'n' :: 'u' :: 'l' :: 'l' :: rest => some (.null, rest)
    | 't' :: 'r' :: 'u' :: 'e' :: rest => some (.bool true, rest)
    | 'f' :: 'a' :: 'l' :: 's' :: 'e' :: rest => some (.bool false, rest)
    | '"' :: rest => do
      let (s?, rest) ← text? budget rest
      return ((s?.map Json.str).getD .unpaired, rest)
    | '[' :: rest =>
      match skip rest with
      | ']' :: rest => some (.arr [], rest)
      | rest => do
        let (items, rest) ← items? budget rest
        return (.arr items, rest)
    | '\x7b' :: rest =>
      match skip rest with
      | '\x7d' :: rest => some (.obj [], rest)
      | rest => do
        let (found, rest) ← members? budget rest
        return ((found.map Json.obj).getD .unpaired, rest)
    | rest => number? rest

/-- Reads the items of an array up to its end; there is at least one. -/
def items? : Nat → List Char → Option (List Json × List Char)
  | 0, _ => none
  | budget + 1, cs => do
    let (item, rest) ← value? budget cs
    match skip rest with
    | ',' :: rest => do
      let (items, rest) ← items? budget rest
      return (item :: items, rest)
    | ']' :: rest => return ([item], rest)
    | _ => none

/-- Reads the members of an object up to its end, if all names are texts; there is at least one. -/
def members? : Nat → List Char → Option (Option (List (String × Json)) × List Char)
  | 0, _ => none
  | budget + 1, cs => do
    let '"' :: rest := skip cs | none
    let (name, rest) ← text? budget rest
    let ':' :: rest := skip rest | none
    let (item, rest) ← value? budget rest
    let member := name.map (·, item)
    match skip rest with
    | ',' :: rest => do
      let (found, rest) ← members? budget rest
      return (do return (← member) :: (← found), rest)
    | '\x7d' :: rest => return (member.map ([·]), rest)
    | _ => none

end

/-- Reads a text that is one value. -/
def parse? (s : String) : Option Json := do
  let cs := s.toList
  let (j, rest) ← value? (2 * cs.length + 2) cs
  if (skip rest).isEmpty then return j else none

end StorageInventory.Json
