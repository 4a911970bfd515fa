import StorageInventory.Number.Numeral
import StorageInventory.Text.Search

/-!
# Drive identifiers

World wide names and SAS addresses are hexadecimal numbers that every source spells its own way.
The canonical spelling is `0x` and the small digits; two sources mean the same drive when their
canonical spellings are equal.
-/

namespace StorageInventory.Identifier

/-- Whether a character is a hexadecimal digit. -/
def isHexDigit (c : Char) : Bool := (Numeral.digit? 16 c).isSome

/-- The text without `mark` in front, if it stands there. -/
def without (mark cs : List Char) : List Char := (mark.isPrefixOf? cs).getD cs

/-- The digits of a spelling: blanks around it, `naa.` and then `0x` in front, and dashes do not
count, nor does the case of letters. -/
def digits (cs : List Char) : List Char :=
  let cs := (Chars.trim cs).map Char.toLower
  (without "0x".toList (without "naa.".toList cs)).filter (· != '-')

/-- The canonical spelling of an identifier; none for a text that spells no number. -/
def canonical? (s : String) : Option String :=
  let ds := digits s.toList
  if ds.isEmpty || !ds.all isHexDigit then none else some (String.ofList ('0' :: 'x' :: ds))

end StorageInventory.Identifier
