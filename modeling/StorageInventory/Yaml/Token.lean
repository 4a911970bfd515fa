import StorageInventory.Yaml.Scalar

/-!
# Tokens

The tokens of a YAML text: the marks, names and scalars that it is made of, and the begin and end
of the collections that indentation alone shows. A key is known by the colon behind it, so a place
where a key may have begun is remembered until the colon comes or can come no more.
-/

namespace StorageInventory.Yaml

/-- How a scalar is written. -/
inductive Style
  | plain
  | quoted
  | literal
  | folded
  deriving DecidableEq, Repr

/-- A token of a text. -/
inductive Token
  | version (major minor : Nat)
  /-- A handle that stands for the start of a tag. -/
  | handle (name stem : String)
  | documentStart
  | documentEnd
  | blockSequence
  | blockMapping
  | blockEnd
  | flowSequence
  | flowSequenceEnd
  | flowMapping
  | flowMappingEnd
  | item
  | comma
  | key
  | value
  | alias (name : String)
  | anchor (name : String)
  | tag (handle suffix : String)
  | scalar (text : String) (style : Style)
  deriving DecidableEq, Repr

/-! ## Names and tags -/

/-- Whether a character belongs to a name. -/
def isNameChar (c : Char) : Bool := c.isAlphanum || c == '_' || c == '-'

/-- The characters of a tag beside those of a name. -/
def tagMarks : List Char :=
  [';', '/', '?', ':', '@', '&', '=', '+', '$', '.', '%', '!', '~', '*', '\'', '(', ')']

/-- Whether a character belongs to a tag. Between angle brackets a tag may have marks of a
collection in it. -/
def isTagChar (bracketed : Bool) (c : Char) : Bool :=
  isNameChar c || tagMarks.contains c || (bracketed && (c == ',' || c == '[' || c == ']'))

/-- The characters that satisfy `p` at a place, and the place behind them. -/
def takeWhile (p : Char → Bool) (c : Cursor) : List Char × Cursor :=
  (c.rest.takeWhile p, c.skipWhile p)

/-- How many bytes of a character follow its first one; none for a byte that is not a first one. -/
def bytesBehind (first : Nat) : Option Nat :=
  if first < 0x80 then some 0
  else if first < 0xC0 then none
  else if first < 0xE0 then some 1
  else if first < 0xF0 then some 2
  else if first < 0xF8 then some 3
  else none

/-- Replaces the bytes that are written in hexadecimal behind a percent sign. `awaited` bytes of a
character are still to come. -/
def unescapeTag? : Nat → List Char → Option (List Char)
  | awaited, [] => if awaited = 0 then some [] else none
  | awaited, '%' :: high :: low :: rest => do
    let byte ← Numeral.digits? 16 [high, low]
    let awaited ← match awaited with
      | 0 => bytesBehind byte
      | n + 1 => if 0x80 ≤ byte ∧ byte < 0xC0 then some n else none
    return Char.ofNat byte :: (← unescapeTag? awaited rest)
  | awaited, c :: rest =>
    if c = '%' ∨ awaited ≠ 0 then none else do return c :: (← unescapeTag? 0 rest)

/-- Reads the body of a tag. It may be empty only behind a lone exclamation mark. -/
def tagBody? (bracketed : Bool) (c : Cursor) : Option (String × Cursor) := do
  let (body, after) := takeWhile (isTagChar bracketed) c
  return (String.ofList (← unescapeTag? 0 body), after)

/-- Reads the handle of a tag: an exclamation mark, a name that may be empty, and the second mark if
there is one. -/
def tagHandle? (c : Cursor) : Option (List Char × Cursor) := do
  guard (c.isAt '!')
  let (name, after) := takeWhile isNameChar c.next
  if after.isAt '!' then return ('!' :: name ++ ['!'], after.next) else return ('!' :: name, after)

/-- Reads a tag. One without a handle belongs to the handle `!`, and a lone mark to none. -/
def tag? (c : Cursor) : Option (Token × Cursor) := do
  if c.next.isAt '<' then
    let (body, after) ← tagBody? true (c.skip 2)
    guard (body ≠ "" ∧ after.isAt '>')
    return (.tag "" body, after.next)
  else
    let (handle, after) ← tagHandle? c
    if 1 < handle.length ∧ handle.getLast? = some '!' then
      let (body, after) ← tagBody? false after
      guard (body ≠ "")
      return (.tag (String.ofList handle) body, after)
    else
      let (body, after) ← tagBody? false after
      let suffix := String.ofList handle.tail ++ body
      return (if suffix = "" then .tag "" "!" else .tag "!" suffix, after)

/-! ## Directives -/

/-- Reads one part of a version. -/
def versionPart? (c : Cursor) : Option (Nat × Cursor) := do
  let (digits, after) := takeWhile Char.isDigit c
  guard (digits.length < 10)
  return (← Numeral.digits? 10 digits, after)

/-- Reads a directive behind its percent sign, up to the end of the line. -/
def directive? (c : Cursor) : Option (Token × Cursor) := do
  let (name, after) := takeWhile isNameChar c
  guard after.isBlank
  let c := after.skipWhile isGap
  let (token, after) ← match String.ofList name with
    | "YAML" => do
      let (major, after) ← versionPart? c
      guard (after.isAt '.')
      let (minor, after) ← versionPart? after.next
      some (Token.version major minor, after)
    | "TAG" => do
      let (handle, after) ← tagHandle? c
      guard (handle.getLast? = some '!' ∧ after.isGap)
      let (body, after) ← tagBody? true (after.skipWhile isGap)
      guard (body ≠ "" ∧ after.isBlank)
      some (Token.handle (String.ofList handle) body, after)
    | _ => none
  let after := after.skipWhile isGap
  let after := if after.isAt '#' then after.toBreak else after
  guard (after.isEnd ∨ after.isBreak)
  return (token, after.takeBreak.2)

/-! ## Reading tokens -/

/-- A place where a key may have begun. -/
structure KeyStart where
  /-- Whether what begins here can only be a key. -/
  required : Bool
  /-- The number of tokens in front. -/
  position : Nat
  place : Cursor

namespace KeyStart

/-- Whether a colon may still come: a key is on one line and at most 1024 bytes long. -/
def isOpen (k : KeyStart) (c : Cursor) : Bool :=
  k.place.line == c.line && c.offset ≤ k.place.offset + 1024

end KeyStart

/-- How far a text has been read. -/
structure Lexer where
  place : Cursor
  tokens : Array Token := #[]
  /-- The columns of the block collections around the place, the innermost first. -/
  columns : List Nat := []
  /-- Whether a key may begin at the place. -/
  keyAllowed : Bool := true
  /-- Where a key of the innermost collection may have begun. -/
  key : Option KeyStart := none
  /-- The same for the collections around each flow collection. -/
  outerKeys : List (Option KeyStart) := []

namespace Lexer

/-- Whether the place is inside a flow collection. -/
def inFlow (l : Lexer) : Bool := !l.outerKeys.isEmpty

/-- The least column at which a scalar may go on. -/
def margin (l : Lexer) : Nat := (l.columns.head?.map (· + 1)).getD 0

/-- Adds a token that ends at the place `after`. -/
def push (l : Lexer) (t : Token) (after : Cursor) : Lexer :=
  { l with tokens := l.tokens.push t, place := after }

/-- Forgets where a key may have begun, unless it can only be a key. -/
def dropKey (l : Lexer) : Option Lexer :=
  if l.key.any (·.required) then none else some { l with key := none }

/-- Forgets where keys may have begun whose colon can come no more. -/
def dropStale (l : Lexer) : Option Lexer :=
  if (l.key :: l.outerKeys).any fun k => k.any fun k => k.required && !k.isOpen l.place then none
  else
    let fresh (k : Option KeyStart) := k.filter (·.isOpen l.place)
    some { l with key := fresh l.key, outerKeys := l.outerKeys.map fresh }

/-- Remembers that a key may begin at the place. At the column of a block collection, nothing else
can. -/
def markKey (l : Lexer) : Option Lexer :=
  if l.keyAllowed then do
    let l ← l.dropKey
    let required := !l.inFlow && l.columns.head? == some l.place.column
    return { l with key := some { required, position := l.tokens.size, place := l.place } }
  else some l

/-- Begins a block collection at a column that is further in than those around it. -/
def openBlock (l : Lexer) (column position : Nat) (start : Token) : Lexer :=
  if !l.inFlow && l.columns.head?.all (· < column) then
    { l with
      columns := column :: l.columns
      tokens := l.tokens.insertIdxIfInBounds position start }
  else l

/-- Ends the block collections whose columns satisfy `p`. -/
def closeBlocks (l : Lexer) (p : Nat → Bool) : Lexer :=
  if l.inFlow then l
  else
    let closed := l.columns.takeWhile p
    { l with
      columns := l.columns.drop closed.length
      tokens := l.tokens ++ Array.replicate closed.length .blockEnd }

/-- Ends all block collections, where a document begins or ends. -/
def closeDocument (l : Lexer) : Option Lexer := do
  let l ← (l.closeBlocks fun _ => true).dropKey
  return { l with keyAllowed := false }

/-- Skips blanks, comments and line breaks. Where a key may begin, a tab is no blank. A mark of the
byte order counts for nothing at the begin of a line, but takes a column. -/
def skipBlanks : Nat → Lexer → Lexer
  | 0, l => l
  | budget + 1, l =>
    let c := l.place
    let c := if c.column = 0 ∧ c.isAt '\ufeff' then c.next else c
    let c := c.skipWhile fun ch => ch == ' ' || (ch == '\t' && (l.inFlow || !l.keyAllowed))
    let c := if c.isAt '#' then c.toBreak else c
    if c.isBreak then
      skipBlanks budget
        { l with place := c.takeBreak.2, keyAllowed := l.keyAllowed || !l.inFlow }
    else { l with place := c }

/-! ## One token

`budget` is never less than the length of the rest.
-/

/-- Reads the mark of a document. -/
def documentMark (l : Lexer) (t : Token) : Option Lexer := do
  return (← l.closeDocument).push t (l.place.skip 3)

/-- Reads the mark that begins a flow collection. -/
def flowStart (l : Lexer) (t : Token) : Option Lexer := do
  let l ← l.markKey
  return { l.push t l.place.next with
    key := none, outerKeys := l.key :: l.outerKeys, keyAllowed := true }

/-- Reads the mark that ends a flow collection. -/
def flowEnd (l : Lexer) (t : Token) : Option Lexer := do
  let l ← l.dropKey
  return { l.push t l.place.next with
    key := l.outerKeys.head?.join, outerKeys := l.outerKeys.tail, keyAllowed := false }

/-- Reads the comma between the entries of a flow collection. -/
def comma (l : Lexer) : Option Lexer := do
  return { (← l.dropKey).push .comma l.place.next with keyAllowed := true }

/-- Reads the dash in front of an entry of a sequence. -/
def item (l : Lexer) : Option Lexer := do
  guard (l.inFlow ∨ l.keyAllowed)
  let l ← (l.openBlock l.place.column l.tokens.size .blockSequence).dropKey
  return { l.push .item l.place.next with keyAllowed := true }

/-- Reads the question mark in front of a key. -/
def keyMark (l : Lexer) : Option Lexer := do
  guard (l.inFlow ∨ l.keyAllowed)
  let l ← (l.openBlock l.place.column l.tokens.size .blockMapping).dropKey
  return { l.push .key l.place.next with keyAllowed := !l.inFlow }

/-- Reads the colon in front of a value. If a key may have begun on the line, then it did. -/
def value (l : Lexer) : Option Lexer :=
  match l.key with
  | some k =>
    let l := { l with tokens := l.tokens.insertIdxIfInBounds k.position .key }
    let l := l.openBlock k.place.column k.position .blockMapping
    some { l.push .value l.place.next with key := none, keyAllowed := false }
  | none => do
    guard (l.inFlow ∨ l.keyAllowed)
    let l := l.openBlock l.place.column l.tokens.size .blockMapping
    return { l.push .value l.place.next with keyAllowed := !l.inFlow }

/-- Adds a token with which a key may begin. -/
def pushStart (l : Lexer) (t : Token) (after : Cursor) : Option Lexer := do
  return { (← l.markKey).push t after with keyAllowed := false }

/-- The marks that may follow the name of an anchor. -/
def nameEnds : List Char := ['?', ':', ',', ']', '\x7d', '%', '@', '\u0060']

/-- Reads the name of an anchor behind its mark. -/
def named (l : Lexer) (token : String → Token) : Option Lexer := do
  let (name, after) := takeWhile isNameChar l.place.next
  guard (!name.isEmpty ∧ (after.isBlank ∨ after.head?.any nameEnds.contains))
  l.pushStart (token (String.ofList name)) after

/-- Reads a tag. -/
def tag (l : Lexer) : Option Lexer := do
  let (t, after) ← tag? l.place
  guard (after.isBlank ∨ (l.inFlow ∧ after.isAt ','))
  l.pushStart t after

/-- Reads a block of lines. -/
def block (l : Lexer) (budget : Nat) (style : Style) : Option Lexer := do
  let l ← l.dropKey
  let (text, after) ← block? (style = .folded) l.margin budget l.place.next
  return { l.push (.scalar (String.ofList text) style) after with keyAllowed := true }

/-- Reads a quoted scalar. -/
def quoted (l : Lexer) (budget : Nat) (double : Bool) : Option Lexer := do
  let (text, after) ← quotedWords double budget [] {} l.place.next
  l.pushStart (.scalar (String.ofList text.reverse) .quoted) after

/-- The marks with which no plain scalar begins. -/
def marks : List Char :=
  ['-', '?', ':', ',', '[', ']', '\x7b', '\x7d', '#', '&', '*', '!', '|', '>', '\'', '"', '%', '@',
    '\u0060']

/-- Reads a plain scalar. Behind one that ends with its line a key may begin. -/
def plain (l : Lexer) (budget : Nat) : Option Lexer := do
  let c := l.place
  let followed := !c.next.isBlank
  guard (c.head?.any (fun ch => !marks.contains ch && !isGap ch) ∨ (c.isAt '-' ∧ followed) ∨
    (!l.inFlow ∧ (c.isAt '?' ∨ c.isAt ':') ∧ followed))
  let (text, broken, after) ← plainWords l.inFlow l.margin budget [] {} c
  let l ← l.pushStart (.scalar (String.ofList text.reverse) .plain) after
  return { l with keyAllowed := broken }

/-- Reads the token at the place, which begins with `ch`. -/
def token (l : Lexer) (budget : Nat) (ch : Char) : Option Lexer :=
  let c := l.place
  if c.column = 0 ∧ ch = '%' then do
    let l ← l.closeDocument
    let (t, after) ← directive? c.next
    return l.push t after
  else if c.isMark ['-', '-', '-'] then l.documentMark .documentStart
  else if c.isMark ['.', '.', '.'] then l.documentMark .documentEnd
  else match ch with
    | '[' => l.flowStart .flowSequence
    | '\x7b' => l.flowStart .flowMapping
    | ']' => l.flowEnd .flowSequenceEnd
    | '\x7d' => l.flowEnd .flowMappingEnd
    | ',' => l.comma
    | '-' => if c.next.isBlank then l.item else l.plain budget
    | '?' => if l.inFlow || c.next.isBlank then l.keyMark else l.plain budget
    | ':' => if l.inFlow || c.next.isBlank then l.value else l.plain budget
    | '*' => l.named .alias
    | '&' => l.named .anchor
    | '!' => l.tag
    | '|' => if l.inFlow then none else l.block budget .literal
    | '>' => if l.inFlow then none else l.block budget .folded
    | '\'' => l.quoted budget false
    | '"' => l.quoted budget true
    | _ => l.plain budget

/-- Reads tokens to the end of the text. `budget` is more than the length of the rest; each token
takes a character at least. -/
def finish : Nat → Lexer → Option (List Token)
  | 0, _ => none
  | budget + 1, l => do
    let l ← (l.skipBlanks (budget + 1)).dropStale
    let l := l.closeBlocks (l.place.column < ·)
    match l.place.head? with
    | none => return (← l.closeDocument).tokens.toList
    | some ch => finish budget (← l.token (budget + 1) ch)

end Lexer

/-- The tokens of a text. -/
def Token.ofText? (text : List Char) : Option (List Token) := do
  guard (text.all isAllowed)
  Lexer.finish (text.length + 1) { place := { rest := text } }

end StorageInventory.Yaml
