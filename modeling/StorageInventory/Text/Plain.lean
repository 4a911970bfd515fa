/-!
# Plain text

What is left of a text that goes to a file and not to a terminal. Sequences of characters that
control a terminal are left out, and so is every control that is no blank. Main statement: a text
without controls stays as it is.
-/

namespace StorageInventory.Text

/-- Where in a control sequence a text is. -/
inductive ControlPart
  /-- In no sequence. -/
  | outside
  /-- Behind the escape that begins a sequence. -/
  | escape
  /-- Behind the escape and more, in front of the letter that ends the sequence. -/
  | escapeMore
  /-- In front of the letter that ends a command with parameters. -/
  | parameters
  /-- In a title, which a bell ends. -/
  | title
  /-- In a string, which the string terminator ends. -/
  | string
  deriving DecidableEq, Repr

namespace ControlPart

/-- Whether a character is a blank among the controls. -/
def isBlankControl (c : Char) : Bool := c == '\t' || c == '\n' || c == '\x0c' || c == '\r'

/-- Whether a character is shown outside of control sequences. -/
def isShown (c : Char) : Bool := isBlankControl c || (' ' ≤ c && c != '\x7f')

/-- Whether the encoding of a character holds the byte that stands for the string terminator. -/
def holdsTerminator (c : Char) : Bool := (String.singleton c).toUTF8.toList.contains 0x9C

/-- The part behind the escape and a character that follows it. -/
def behindEscape (c : Char) : ControlPart :=
  if c = '[' then parameters
  else if c = ']' then title
  else if c = 'P' || c = 'X' || c = '^' || c = '_' then string
  else if ' ' ≤ c && c < '0' then escapeMore
  else if '0' ≤ c && c ≤ '~' then outside
  else escape

/-- The part behind a character, and whether the character is shown. A blank that is no space ends a
command, and an escape begins a sequence anywhere. -/
def next (p : ControlPart) (c : Char) : ControlPart × Bool :=
  if c = '\x1b' then (escape, false)
  else if c = '\x18' || c = '\x1a' then (outside, false)
  else match p with
    | outside => (outside, isShown c)
    | escape => if isBlankControl c then (outside, true) else (behindEscape c, false)
    | escapeMore =>
      if isBlankControl c then (outside, true)
      else (if '0' ≤ c && c ≤ '~' then outside else escapeMore, false)
    | parameters =>
      if isBlankControl c then (outside, true)
      else (if '@' ≤ c && c ≤ '~' then outside else parameters, false)
    | title => (if c = '\x07' then outside else title, false)
    | string => (if holdsTerminator c then outside else string, false)

/-- The characters that are shown of a text that begins in a part. -/
def shown (p : ControlPart) : List Char → List Char
  | [] => []
  | c :: cs =>
    let (behind, isShown) := p.next c
    if isShown then c :: shown behind cs else shown behind cs

theorem shown_outside {cs : List Char} (h : ∀ c ∈ cs, ' ' ≤ c ∧ c ≠ '\x7f') :
    outside.shown cs = cs := by
  induction cs with
  | nil => rfl
  | cons c cs ih =>
    obtain ⟨blank, notDelete⟩ := h c (by simp)
    have notEscape : c ≠ '\x1b' ∧ c ≠ '\x18' ∧ c ≠ '\x1a' := by
      refine ⟨?_, ?_, ?_⟩ <;> rintro rfl <;> revert blank <;> decide
    have step : outside.next c = (outside, true) := by
      simp [next, notEscape, isShown, blank, notDelete]
    simp [shown, step, ih fun d hd => h d (by simp [hd])]

end ControlPart

/-- The text without what controls a terminal. -/
def plain (s : String) : String := String.ofList (ControlPart.outside.shown s.toList)

end StorageInventory.Text
