/-!
# JSON values

The values of JSON, and reading records out of them. An object keeps its members in the order of
the text, repeated names included.
-/

namespace StorageInventory

/-- A JSON value. -/
inductive Json
  | null
  | bool (b : Bool)
  | int (n : Int)
  /-- A number with a fraction, a power of ten or a negative zero; its value is not kept. -/
  | real
  | str (s : String)
  /-- A string in which an escape names half of a surrogate pair, or an object with such a name. It
  can only be passed over. -/
  | unpaired
  | arr (items : List Json)
  | obj (members : List (String × Json))
  deriving Repr, Inhabited

namespace Json

/-- The members of a record with the given field names. An array of at least `required` items gives
the fields in order; a field must not be given twice. -/
def record? (names : List String) (required : Nat) : Json → Option (List (String × Json))
  | .obj members =>
    if names.all fun name => (members.filter (·.1 == name)).length ≤ 1 then some members else none
  | .arr items =>
    if required ≤ items.length ∧ items.length ≤ names.length then some (names.zip items) else none
  | _ => none

/-- Reads a field that must be there. -/
def need (members : List (String × Json)) (name : String) (read : Json → Option α) : Option α :=
  (members.lookup name).bind read

/-- Reads a field that may be absent or null. -/
def optional (members : List (String × Json)) (name : String) (read : Json → Option α) :
    Option (Option α) :=
  match members.lookup name with
  | none | some .null => some none
  | some j => (read j).map some

/-- Reads a field that may be absent, and is then empty. -/
def orEmpty (members : List (String × Json)) (name : String) (read : Json → Option (List α)) :
    Option (List α) :=
  match members.lookup name with
  | none => some []
  | some j => read j

/-- Reads a string. -/
def str? : Json → Option String
  | .str s => some s
  | _ => none

/-- Reads a truth value. -/
def bool? : Json → Option Bool
  | .bool b => some b
  | _ => none

/-- Reads a whole number below `bound`. -/
def nat? (bound : Nat) : Json → Option Nat
  | .int n => if 0 ≤ n ∧ n < bound then some n.toNat else none
  | _ => none

/-- Reads a whole number from `-bound` up to but not including `bound`. -/
def int? (bound : Nat) : Json → Option Int
  | .int n => if -(bound : Int) ≤ n ∧ n < bound then some n else none
  | _ => none

/-- Reads an array, each item with the same reader. -/
def list? (read : Json → Option α) : Json → Option (List α)
  | .arr items => items.mapM read
  | _ => none

/-- Reads one of a few names, given as a string or as the name of an object's only member, which is
null. -/
def name? : Json → Option String
  | .str s => some s
  | .obj [(name, .null)] => some name
  | _ => none

/-- Reads an 8-bit word. -/
def word8? (j : Json) : Option UInt8 := (j.nat? UInt8.size).map UInt8.ofNat

/-- Reads a 16-bit word. -/
def word16? (j : Json) : Option UInt16 := (j.nat? UInt16.size).map UInt16.ofNat

/-- Reads a 32-bit word. -/
def word32? (j : Json) : Option UInt32 := (j.nat? UInt32.size).map UInt32.ofNat

/-- Reads a 64-bit word. -/
def word64? (j : Json) : Option UInt64 := (j.nat? UInt64.size).map UInt64.ofNat

/-- Reads a signed 16-bit number. -/
def int16? (j : Json) : Option Int16 := (j.int? 0x8000).map Int16.ofInt

/-- Reads a signed 64-bit number. -/
def int64? (j : Json) : Option Int64 := (j.int? 0x8000000000000000).map Int64.ofInt

/-- The value, or null when there is none. -/
def ofOption (write : α → Json) : Option α → Json
  | some a => write a
  | none => .null

/-- The member of a value that is there; no member otherwise. -/
def present (name : String) (write : α → Json) : Option α → List (String × Json)
  | some a => [(name, write a)]
  | none => []

/-- The member of a list that is not empty; no member otherwise. -/
def nonempty (name : String) (write : α → Json) : List α → List (String × Json)
  | [] => []
  | xs => [(name, .arr (xs.map write))]

/-- An array of strings. -/
def strings (xs : List String) : Json := .arr (xs.map .str)

/-- A whole number. -/
def nat (n : Nat) : Json := .int n

end Json

end StorageInventory
