import StorageInventory.Text.Shapeless

/-!
# Quoted text

The quoted form of a text in a message: double quotes around it, a backslash in front of quotes
and backslashes, letters for the common controls, and a code point in braces for every other
character that has no shape of its own.
-/

namespace StorageInventory.Text.Quoted

/-- How one character stands between the quotes. -/
def escape (c : Char) : List Char :=
  if c = '\x00' then ['\\', '0']
  else if c = '\t' then ['\\', 't']
  else if c = '\r' then ['\\', 'r']
  else if c = '\n' then ['\\', 'n']
  else if c = '\\' || c = '"' then ['\\', c]
  else if isShapeless c then '\\' :: 'u' :: '\x7b' :: Nat.toDigits 16 c.toNat ++ ['\x7d']
  else [c]

end Quoted

/-- The text between double quotes, with escapes for what cannot stand there as it is. -/
def quoted (s : String) : String :=
  String.ofList ('"' :: s.toList.flatMap Quoted.escape ++ ['"'])

end StorageInventory.Text
