import StorageInventory.Text.Blank

/-!
# Searching a text

Cutting a text at the first or the last place where a pattern stands, and the questions that
follow from it. A pattern is a text of its own; the functions on `List Char` are in `Chars`, those
on `String` in `Text`.
-/

namespace StorageInventory

namespace Chars

/-- What stands before and after the first occurrence of `pattern`. -/
def cut (pattern : List Char) : List Char → Option (List Char × List Char)
  | [] => if pattern.isEmpty then some ([], []) else none
  | c :: cs =>
    match pattern.isPrefixOf? (c :: cs) with
    | some rest => some ([], rest)
    | none => (cut pattern cs).map fun (before, after) => (c :: before, after)

/-- What stands before and after the last occurrence of `pattern`. -/
def cutLast (pattern : List Char) : List Char → Option (List Char × List Char)
  | [] => if pattern.isEmpty then some ([], []) else none
  | c :: cs =>
    match cutLast pattern cs with
    | some (before, after) => some (c :: before, after)
    | none => (pattern.isPrefixOf? (c :: cs)).map fun rest => ([], rest)

/-- What stands before and after the last character that satisfies `p`. -/
def cutLastWhere (p : Char → Bool) : List Char → Option (List Char × List Char)
  | [] => none
  | c :: cs =>
    match cutLastWhere p cs with
    | some (before, after) => some (c :: before, after)
    | none => if p c then some ([], cs) else none

/-- Whether `pattern` stands somewhere in the text. -/
def holds (pattern cs : List Char) : Bool := (cut pattern cs).isSome

/-- The text with the occurrences of a non-empty `pattern`, found from the left and without
overlap, taken out; the next `skip` characters belong to an occurrence already found. -/
def removeFrom (pattern : List Char) : Nat → List Char → List Char
  | _, [] => []
  | skip + 1, _ :: cs => removeFrom pattern skip cs
  | 0, c :: cs =>
    if pattern.isPrefixOf (c :: cs) then removeFrom pattern (pattern.length - 1) cs
    else c :: removeFrom pattern 0 cs

/-- The text without the occurrences of a non-empty `pattern`. -/
def remove (pattern cs : List Char) : List Char := removeFrom pattern 0 cs

/-- Takes a non-empty `pattern` off the front at most `times` times. -/
def dropLeading (pattern : List Char) : Nat → List Char → List Char
  | 0, cs => cs
  | times + 1, cs =>
    match pattern.isPrefixOf? cs with
    | some rest => dropLeading pattern times rest
    | none => cs

end Chars

namespace Text

/-- Whether the text begins with `start`. -/
def beginsWith (s start : String) : Bool := start.toList.isPrefixOf s.toList

/-- Whether the text ends with `finish`. -/
def endsWith (s finish : String) : Bool := finish.toList.isSuffixOf s.toList

/-- Whether `pattern` stands somewhere in the text. -/
def holds (s pattern : String) : Bool := Chars.holds pattern.toList s.toList

/-- What stands before and after the first occurrence of `pattern`. -/
def cut (s pattern : String) : Option (String × String) :=
  (Chars.cut pattern.toList s.toList).map fun (a, b) => (String.ofList a, String.ofList b)

/-- What stands before and after the last occurrence of `pattern`. -/
def cutLast (s pattern : String) : Option (String × String) :=
  (Chars.cutLast pattern.toList s.toList).map fun (a, b) => (String.ofList a, String.ofList b)

/-- The rest of a text that begins with `start`. -/
def after? (s start : String) : Option String :=
  (start.toList.isPrefixOf? s.toList).map String.ofList

/-- The text without the occurrences of a non-empty `pattern`. -/
def remove (s pattern : String) : String :=
  String.ofList (Chars.remove pattern.toList s.toList)

/-- The text without the occurrences of a non-empty `pattern` that lead it. -/
def dropLeading (s pattern : String) : String :=
  String.ofList (Chars.dropLeading pattern.toList s.toList.length s.toList)

/-- The text without the characters at its end that satisfy `p`. -/
def dropEndWhile (s : String) (p : Char → Bool) : String :=
  String.ofList (Chars.dropEndWhile p s.toList)

/-- The pieces between the occurrences of one character. -/
def piecesAt (s : String) (separator : Char) : List String :=
  (Chars.pieces (· == separator) s.toList).map String.ofList

/-- The text with the ASCII capitals made small. -/
def lower (s : String) : String := String.ofList (s.toList.map Char.toLower)

/-- The text with the ASCII small letters made capital. -/
def upper (s : String) : String := String.ofList (s.toList.map Char.toUpper)

/-- Whether two texts agree but for the case of ASCII letters. -/
def sameLetters (a b : String) : Bool := lower a == lower b

/-- Splits a line at the first `mark` into a key and a value, neither with blanks around it. A
blank line, or one without the mark, has no such parts. -/
def keyValue? (line mark : String) : Option (String × String) :=
  let line := trim line
  if line.isEmpty then none
  else (cut line mark).map fun (key, value) => (trim key, trim value)

end Text

end StorageInventory
