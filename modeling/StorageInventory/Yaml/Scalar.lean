import StorageInventory.Number.Numeral
import StorageInventory.Yaml.Cursor

/-!
# Scalars

The three forms of a scalar: plain, quoted, and a block of lines. Each reader begins at the scalar
and gives its text and the place behind it; a text that is no scalar gives nothing. A text that is
still being read comes in reverse. `budget` bounds the number of rounds and is never less than the
length of the rest.
-/

namespace StorageInventory.Yaml

/-- The blanks between two words of a scalar, in reverse: those on the first line, the first line
break if there is one, and the breaks behind it. -/
structure Gap where
  spaces : List Char := []
  first : Option (List Char) := none
  more : List Char := []

namespace Gap

/-- What a gap counts as, in reverse: itself on one line, a space for one break, and one break less
than there are for more. -/
def text (g : Gap) : List Char :=
  match g.first with
  | none => g.spaces
  | some b => if b = ['\n'] then (if g.more.isEmpty then [' '] else g.more) else g.more ++ b

/-- Reads blanks onto a gap. A tab must not stand in front of the column `margin` of a line. -/
def read (margin : Nat) : Nat → Gap → Cursor → Option (Gap × Cursor)
  | 0, g, c => some (g, c)
  | budget + 1, g, c =>
    match c.head? with
    | none => some (g, c)
    | some ch =>
      if Yaml.isGap ch then
        if g.first.isNone then read margin budget { g with spaces := ch :: g.spaces } c.next
        else if ch = '\t' ∧ c.column < margin then none
        else read margin budget g c.next
      else if Yaml.isBreak ch then
        let (b, after) := c.takeBreak
        if g.first.isNone then read margin budget { first := some b } after
        else read margin budget { g with more := b ++ g.more } after
      else some (g, c)

end Gap

/-! ## Plain scalars -/

/-- The characters that end a plain scalar inside a flow collection. -/
def isFlowMark (c : Char) : Bool := c == ',' || c == '[' || c == ']' || c == '\x7b' || c == '\x7d'

/-- Reads the word of a plain scalar onto a text: characters up to a blank, to a colon that ends a
key, or to the mark of a flow collection. -/
def plainWord (flow : Bool) : Nat → List Char → Cursor → Option (List Char × Cursor)
  | 0, text, c => some (text, c)
  | budget + 1, text, c =>
    match c.head? with
    | none => some (text, c)
    | some ch =>
      if c.isBlank then some (text, c)
      else if flow && ch == ':' && c.next.head?.any (fun d => isFlowMark d || d == '?') then none
      else if (ch == ':' && c.next.isBlank) || (flow && isFlowMark ch) then some (text, c)
      else plainWord flow budget (ch :: text) c.next

/-- Reads words and the gaps between them. Outside of flow collections each line must begin at the
column `margin` at least. The answer tells whether the scalar ends behind a line break. -/
def plainWords (flow : Bool) (margin : Nat) :
    Nat → List Char → Gap → Cursor → Option (List Char × Bool × Cursor)
  | 0, text, gap, c => some (text, gap.first.isSome, c)
  | budget + 1, text, gap, c =>
    if c.isDocumentMark || c.isAt '#' then some (text, gap.first.isSome, c)
    else do
      let (joined, after) ← plainWord flow budget (gap.text ++ text) c
      let (text, gap) := if after.offset = c.offset then (text, gap) else (joined, {})
      if after.isGap || after.isBreak then
        let (gap, after) ← gap.read margin budget after
        if !flow && after.column < margin then some (text, gap.first.isSome, after)
        else plainWords flow margin budget text gap after
      else some (text, gap.first.isSome, after)

/-! ## Quoted scalars -/

/-- What a letter stands for behind a backslash. -/
def escapes : List (Char × Char) :=
  [('0', '\x00'), ('a', '\x07'), ('b', '\x08'), ('t', '\t'), ('\t', '\t'), ('n', '\n'),
    ('v', '\x0b'), ('f', '\x0c'), ('r', '\r'), ('e', '\x1b'), (' ', ' '), ('"', '"'), ('/', '/'),
    ('\\', '\\'), ('N', '\u0085'), ('_', '\u00a0'), ('L', '\u2028'), ('P', '\u2029')]

/-- The number of digits of a code behind a letter. -/
def codeWidths : List (Char × Nat) := [('x', 2), ('u', 4), ('U', 8)]

/-- Reads an escape behind its backslash. -/
def escape? (c : Cursor) : Option (Char × Cursor) := do
  let letter ← c.head?
  match escapes.lookup letter with
  | some ch => return (ch, c.next)
  | none =>
    let width ← codeWidths.lookup letter
    let digits := c.next.rest.take width
    guard (digits.length = width)
    let code ← Numeral.digits? 16 digits
    guard (code < 0xD800 ∨ 0xE000 ≤ code ∧ code < 0x110000)
    return (Char.ofNat code, c.skip (width + 1))

/-- Reads a quoted scalar behind its opening quote. In double quotes a backslash escapes; in single
quotes a quote is written twice. -/
def quotedWords (double : Bool) :
    Nat → List Char → Gap → Cursor → Option (List Char × Cursor)
  | 0, _, _, _ => none
  | budget + 1, text, gap, c =>
    let quote := if double then '"' else '\''
    let joined := gap.text ++ text
    match c.rest with
    | [] => none
    | ch :: rest =>
      if c.isDocumentMark then none
      else if c.isGap || c.isBreak then do
        let (gap, after) ← gap.read 0 (budget + 1) c
        quotedWords double budget text gap after
      else if ch = quote then
        if !double && rest.head? == some '\'' then
          quotedWords double budget ('\'' :: joined) {} (c.skip 2)
        else some (joined, c.next)
      else if double && ch == '\\' then
        if c.next.isBreak then
          quotedWords double budget joined { first := some [] } c.next.takeBreak.2
        else do
          let (e, after) ← escape? c.next
          quotedWords double budget (e :: joined) {} after
      else quotedWords double budget (ch :: joined) {} c.next

/-! ## Blocks of lines -/

/-- What becomes of the line breaks at the end of a block. -/
inductive Chomp
  | strip
  | clip
  | keep
  deriving DecidableEq

/-- Reads the sign that says what becomes of the last breaks. -/
def chomp? (c : Cursor) : Option (Chomp × Cursor) :=
  match c.head? with
  | some '+' => some (.keep, c.next)
  | some '-' => some (.strip, c.next)
  | _ => none

/-- Reads the digit that says how far in a block is; zero is none. -/
def depth? (c : Cursor) : Option (Option (Nat × Cursor)) :=
  match c.head? with
  | some d =>
    if d = '0' then none
    else if d.isDigit then some (some (d.toNat - 48, c.next))
    else some none
  | none => some none

/-- Reads the sign and the digit in either order; either may be missing. -/
def blockHeader? (c : Cursor) : Option (Chomp × Option Nat × Cursor) := do
  match chomp? c with
  | some (chomp, c) =>
    match ← depth? c with
    | some (n, c) => return (chomp, some n, c)
    | none => return (chomp, none, c)
  | none =>
    match ← depth? c with
    | some (n, c) =>
      let (chomp, c) := (chomp? c).getD (.clip, c)
      return (chomp, some n, c)
    | none => return (.clip, none, c)

/-- Reads blank lines of a block and gives their breaks in reverse; `indent` is zero as long as it
is not known, and `widest` is the widest column so far. -/
def blankLines (indent : Nat) :
    Nat → Nat → List Char → Cursor → Option (List Char × Nat × Cursor)
  | 0, widest, breaks, c => some (breaks, widest, c)
  | budget + 1, widest, breaks, c =>
    let spaces := (c.rest.takeWhile (· == ' ')).length
    let c := c.skip (if indent = 0 then spaces else min spaces (indent - c.column))
    let widest := max widest c.column
    if (indent = 0 ∨ c.column < indent) ∧ c.isAt '\t' then none
    else if c.isBreak then
      let (b, after) := c.takeBreak
      blankLines indent budget widest (b ++ breaks) after
    else some (breaks, widest, c)

/-- Reads the lines of a block. `lead` is the break behind the line before, `more` the breaks of the
blank lines behind it in reverse, and `spaced` tells whether that line begins with a blank. -/
def blockLines (folded : Bool) (indent : Nat) :
    Nat → List Char → List Char → List Char → Bool → Cursor →
      Option (List Char × List Char × List Char × Cursor)
  | 0, text, lead, more, _, c => some (text, lead, more, c)
  | budget + 1, text, lead, more, spaced, c =>
    if c.column = indent ∧ ¬ c.isEnd then do
      let gapAhead := c.isGap
      let fold := folded && lead == ['\n'] && !spaced && !gapAhead
      let join := if fold then (if more.isEmpty then [' '] else more) else more ++ lead
      let line := c.rest.takeWhile (!isBreak ·)
      let (lead, after) := (c.skip line.length).takeBreak
      let (more, _, after) ← blankLines indent budget 0 [] after
      blockLines folded indent budget (line.reverse ++ join ++ text) lead more gapAhead after
    else some (text, lead, more, c)

/-- Reads a block behind its mark, and gives its text in order. `parent` is one more than the column
of the collection that it is in. -/
def block? (folded : Bool) (parent budget : Nat) (c : Cursor) : Option (List Char × Cursor) := do
  let (chomp, depth, c) ← blockHeader? c
  let c := c.skipWhile isGap
  let c := if c.isAt '#' then c.toBreak else c
  guard (c.isEnd ∨ c.isBreak)
  let c := if c.isBreak then c.takeBreak.2 else c
  let known := match depth with
    | some n => parent - 1 + n
    | none => 0
  let (more, widest, c) ← blankLines known budget 0 [] c
  let indent := if known = 0 then max widest (max parent 1) else known
  let (text, lead, more, c) ← blockLines folded indent budget [] [] more false c
  let tail := match chomp with
    | .strip => []
    | .clip => lead
    | .keep => more ++ lead
  return ((tail ++ text).reverse, c)

end StorageInventory.Yaml
