/-!
# A place in a YAML text

The rest of a text together with the line and the column at which it begins, and the classes of
characters that YAML tells apart.
-/

namespace StorageInventory.Yaml

/-- Whether YAML allows a character in a text. -/
def isAllowed (c : Char) : Bool :=
  let n := c.toNat
  n == 0x9 || n == 0xA || n == 0xD || (0x20 ≤ n && n ≤ 0x7E) || n == 0x85 ||
    (0xA0 ≤ n && n ≤ 0xFFFD) || 0x10000 ≤ n

/-- Whether a character ends a line. -/
def isBreak (c : Char) : Bool :=
  c == '\n' || c == '\r' || c == '\u0085' || c == '\u2028' || c == '\u2029'

/-- Whether a character separates words on a line. -/
def isGap (c : Char) : Bool := c == ' ' || c == '\t'

/-- The number of bytes of some characters. -/
def byteCount (cs : List Char) : Nat := (String.ofList cs).utf8ByteSize

/-- A place in a text. -/
structure Cursor where
  rest : List Char
  /-- The number of bytes in front. -/
  offset : Nat := 0
  line : Nat := 0
  column : Nat := 0

namespace Cursor

/-- The character at the place. -/
def head? (c : Cursor) : Option Char := c.rest.head?

/-- Whether a character stands at the place. -/
def isAt (c : Cursor) (ch : Char) : Bool := c.head? == some ch

/-- Whether the text ends at the place. -/
def isEnd (c : Cursor) : Bool := c.rest.isEmpty

/-- Whether a line ends at the place. -/
def isBreak (c : Cursor) : Bool := c.head?.any Yaml.isBreak

/-- Whether a space or a tab stands at the place. -/
def isGap (c : Cursor) : Bool := c.head?.any Yaml.isGap

/-- Whether a word ends in front of the place. -/
def isBlank (c : Cursor) : Bool := c.isEnd || c.isBreak || c.isGap

/-- The place behind `n` characters of the same line. -/
def skip (c : Cursor) (n : Nat) : Cursor :=
  { c with
    rest := c.rest.drop n
    offset := c.offset + byteCount (c.rest.take n)
    column := c.column + n }

/-- The place behind one character. -/
def next (c : Cursor) : Cursor := c.skip 1

/-- The place behind the end of a line, and what the end counts as in a scalar. -/
def takeBreak (c : Cursor) : List Char × Cursor :=
  let after (n : Nat) : Cursor :=
    { rest := c.rest.drop n
      offset := c.offset + byteCount (c.rest.take n)
      line := c.line + 1 }
  match c.rest with
  | '\r' :: '\n' :: _ => (['\n'], after 2)
  | '\u2028' :: _ => (['\u2028'], after 1)
  | '\u2029' :: _ => (['\u2029'], after 1)
  | _ :: _ => (['\n'], after 1)
  | [] => ([], c)

/-- The place behind the characters that satisfy `p`. -/
def skipWhile (c : Cursor) (p : Char → Bool) : Cursor := c.skip (c.rest.takeWhile p).length

/-- The place at the end of the line. -/
def toBreak (c : Cursor) : Cursor := c.skipWhile (!Yaml.isBreak ·)

/-- Whether a line begins with the mark and nothing close behind it. -/
def isMark (c : Cursor) (mark : List Char) : Bool :=
  c.column == 0 && mark.isPrefixOf c.rest && (c.skip mark.length).isBlank

/-- Whether a document begins or ends at the place. -/
def isDocumentMark (c : Cursor) : Bool := c.isMark ['-', '-', '-'] || c.isMark ['.', '.', '.']

end Cursor

end StorageInventory.Yaml
