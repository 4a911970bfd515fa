/-!
# Blank characters

The characters with the Unicode property `White_Space`, and the cuts of a text that depend on
them: `trim` takes blanks off both ends, `words` splits at runs of blanks, `lines` splits at line
feeds. Each is a function on `List Char` in `Chars`, and on `String` in `Text`.
-/

namespace StorageInventory

namespace Chars

/-- The code points that have the property `White_Space`. -/
def blankCodes : List Nat :=
  [0x9, 0xA, 0xB, 0xC, 0xD, 0x20, 0x85, 0xA0, 0x1680, 0x2000, 0x2001, 0x2002, 0x2003, 0x2004,
    0x2005, 0x2006, 0x2007, 0x2008, 0x2009, 0x200A, 0x2028, 0x2029, 0x202F, 0x205F, 0x3000]

/-- Whether a character is white space. -/
def isBlank (c : Char) : Bool := blankCodes.contains c.toNat

/-- Drops the longest ending whose characters all satisfy `p`. -/
def dropEndWhile (p : Char → Bool) (cs : List Char) : List Char :=
  (cs.reverse.dropWhile p).reverse

/-- Takes off both ends every character that satisfies `p`. -/
def stripWhere (p : Char → Bool) (cs : List Char) : List Char :=
  dropEndWhile p (cs.dropWhile p)

/-- Takes blanks off both ends. -/
def trim (cs : List Char) : List Char := stripWhere isBlank cs

/-- The pieces between the characters that satisfy `p`; always one more than there are such
characters. -/
def pieces (p : Char → Bool) : List Char → List (List Char)
  | [] => [[]]
  | c :: cs =>
    if p c then [] :: pieces p cs
    else match pieces p cs with
      | [] => [[c]]
      | w :: ws => (c :: w) :: ws

/-- The runs of characters that are not blank. -/
def words (cs : List Char) : List (List Char) :=
  (pieces isBlank cs).filter (fun w => !w.isEmpty)

/-- A line without the carriage return that ends it. -/
def dropReturn (cs : List Char) : List Char :=
  if cs.getLast? = some '\r' then cs.dropLast else cs

/-- Reads the pieces between line feeds as lines: all but the last piece were ended by a line feed
and lose a carriage return in front of it, and an empty last piece is no line. -/
def ended : List (List Char) → List (List Char)
  | [] => []
  | [last] => if last.isEmpty then [] else [last]
  | line :: rest => dropReturn line :: ended rest

/-- The lines of a text. -/
def lines (cs : List Char) : List (List Char) := ended (pieces (· == '\n') cs)

end Chars

namespace Text

/-- The text without the blanks at its ends. -/
def trim (s : String) : String := String.ofList (Chars.trim s.toList)

/-- Whether a text holds nothing but blanks. -/
def isBlank (s : String) : Bool := s.toList.all Chars.isBlank

/-- The words of a text. -/
def words (s : String) : List String := (Chars.words s.toList).map String.ofList

/-- The lines of a text. -/
def lines (s : String) : List String := (Chars.lines s.toList).map String.ofList

/-- The words of a text with one space between them. -/
def spaced (s : String) : String := " ".intercalate (words s)

end Text

end StorageInventory
