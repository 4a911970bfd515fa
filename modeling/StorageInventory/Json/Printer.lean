import StorageInventory.Json.Basic
import StorageInventory.Number.Numeral

/-!
# Printing JSON

Writing a JSON value on several lines, each level two spaces further in, or on one line without any
space.
-/

namespace StorageInventory.Json

/-- How a character stands in a string. -/
def escape (c : Char) : List Char :=
  if c = '"' then ['\\', '"']
  else if c = '\\' then ['\\', '\\']
  else if c = '\n' then ['\\', 'n']
  else if c = '\r' then ['\\', 'r']
  else if c = '\t' then ['\\', 't']
  else if c = '\x08' then ['\\', 'b']
  else if c = '\x0c' then ['\\', 'f']
  else if c.toNat < 0x20 then
    '\\' :: 'u' :: Numeral.padStart 4 '0' (Nat.toDigits 16 c.toNat)
  else [c]

/-- A string between its quotes. -/
def quotedChars (s : String) : List Char := '"' :: s.toList.flatMap escape ++ ['"']

/-- A whole number in decimal. -/
def intChars : Int → List Char
  | .ofNat n => Nat.toDigits 10 n
  | .negSucc n => '-' :: Nat.toDigits 10 (n + 1)

/-- How the parts of a value are set: what stands in front of each part at a depth, what stands
behind the last, and what stands behind the name of a member. -/
structure Layout where
  before : Nat → List Char
  close : Nat → List Char
  afterName : List Char

/-- A new line, `depth` levels in. -/
def newLine (depth : Nat) : List Char := '\n' :: List.replicate (2 * depth) ' '

/-- Every part on a line of its own. -/
def Layout.lines : Layout := { before := newLine, close := newLine, afterName := [':', ' '] }

/-- Everything on one line. -/
def Layout.compact : Layout := { before := fun _ => [], close := fun _ => [], afterName := [':'] }

mutual

/-- A value that begins at a depth. -/
def chars (layout : Layout) (depth : Nat) : Json → List Char
  | .null => ['n', 'u', 'l', 'l']
  | .bool true => ['t', 'r', 'u', 'e']
  | .bool false => ['f', 'a', 'l', 's', 'e']
  | .int n => intChars n
  | .real => ['0', '.', '0']
  | .str s => quotedChars s
  | .unpaired => ['"', '"']
  | .arr [] => ['[', ']']
  | .arr (item :: items) =>
    '[' :: layout.before (depth + 1) ++ chars layout (depth + 1) item ++
      itemChars layout (depth + 1) items ++ layout.close depth ++ [']']
  | .obj [] => ['\x7b', '\x7d']
  | .obj ((name, item) :: members) =>
    '\x7b' :: layout.before (depth + 1) ++ quotedChars name ++ layout.afterName ++
      chars layout (depth + 1) item ++ memberChars layout (depth + 1) members ++
      layout.close depth ++ ['\x7d']

/-- The items of an array behind the first. -/
def itemChars (layout : Layout) (depth : Nat) : List Json → List Char
  | [] => []
  | item :: items =>
    ',' :: layout.before depth ++ chars layout depth item ++ itemChars layout depth items

/-- The members of an object behind the first. -/
def memberChars (layout : Layout) (depth : Nat) : List (String × Json) → List Char
  | [] => []
  | (name, item) :: members =>
    ',' :: layout.before depth ++ quotedChars name ++ layout.afterName ++
      chars layout depth item ++ memberChars layout depth members

end

/-- The value over several lines. -/
def pretty (j : Json) : String := String.ofList (chars .lines 0 j)

/-- The value on one line. -/
def compact (j : Json) : String := String.ofList (chars .compact 0 j)

end StorageInventory.Json
