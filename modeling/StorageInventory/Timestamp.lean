import StorageInventory.Number.Numeral
import StorageInventory.Text.Search

/-!
# Points in time

A point in time as a date and a time of day in UTC, to the nanosecond. Times are read in the form
of RFC 3339, with blanks allowed between the parts and any offset of less than a day, and written
with as many triples of decimal places as the fraction needs.
-/

namespace StorageInventory

/-- A date of the Gregorian calendar. -/
structure Date where
  year : Int
  month : Nat
  day : Nat
  deriving DecidableEq, Repr

namespace Date

/-- Whether a year has 366 days. -/
def isLeap (year : Int) : Bool := year % 4 == 0 && (year % 100 != 0 || year % 400 == 0)

/-- The number of days in a month. -/
def daysIn (year : Int) (month : Nat) : Nat :=
  if month = 2 then (if isLeap year then 29 else 28)
  else if month ∈ [4, 6, 9, 11] then 30
  else 31

/-- The years that a date can have. -/
def years : Int × Int := (-262143, 262142)

/-- Whether the calendar has this day. -/
def isValid (d : Date) : Bool :=
  years.1 ≤ d.year && d.year ≤ years.2 && 1 ≤ d.month && d.month ≤ 12 && 1 ≤ d.day &&
    d.day ≤ daysIn d.year d.month

/-- The day after. -/
def next (d : Date) : Date :=
  if d.day < daysIn d.year d.month then { d with day := d.day + 1 }
  else if d.month < 12 then { d with month := d.month + 1, day := 1 }
  else { year := d.year + 1, month := 1, day := 1 }

/-- The day before. -/
def previous (d : Date) : Date :=
  if 1 < d.day then { d with day := d.day - 1 }
  else if 1 < d.month then
    { d with month := d.month - 1, day := daysIn d.year (d.month - 1) }
  else { year := d.year - 1, month := 12, day := 31 }

end Date

/-- A point in time in UTC. The second sixty is a leap second. -/
structure Timestamp where
  date : Date
  hour : Nat
  minute : Nat
  second : Nat
  nanosecond : Nat := 0
  deriving DecidableEq, Repr

namespace Timestamp

/-- Whether the calendar and the clock have this point. -/
def isValid (t : Timestamp) : Bool :=
  t.date.isValid && t.hour < 24 && t.minute < 60 && t.second ≤ 60 && t.nanosecond < 1000000000

/-- The minutes in a day. -/
def minutesPerDay : Int := 1440

/-- The point in UTC of a local time that is `offset` minutes ahead of it. -/
def ofLocal (t : Timestamp) (offset : Int) : Timestamp :=
  let minutes := (t.hour * 60 + t.minute : Int) - offset
  let date :=
    if minutes < 0 then t.date.previous
    else if minutesPerDay ≤ minutes then t.date.next
    else t.date
  let minutes := (minutes % minutesPerDay).toNat
  { t with date, hour := minutes / 60, minute := minutes % 60 }

/-- A year in four digits, with a sign when it has more or is negative. -/
def yearText (year : Int) : String :=
  if 0 ≤ year ∧ year ≤ 9999 then Numeral.padded 4 year.toNat
  else (if year < 0 then "-" else "+") ++ Numeral.padded 4 year.natAbs

/-- The fraction of a second in no, three, six or nine places. -/
def fractionText (nanosecond : Nat) : String :=
  if nanosecond = 0 then ""
  else if nanosecond % 1000000 = 0 then "." ++ Numeral.padded 3 (nanosecond / 1000000)
  else if nanosecond % 1000 = 0 then "." ++ Numeral.padded 6 (nanosecond / 1000)
  else "." ++ Numeral.padded 9 nanosecond

/-- The date and the time of day, without the offset. -/
def text (t : Timestamp) : String :=
  let two := Numeral.padded 2
  yearText t.date.year ++ "-" ++ two t.date.month ++ "-" ++ two t.date.day ++ "T" ++
    two t.hour ++ ":" ++ two t.minute ++ ":" ++ two t.second ++ fractionText t.nanosecond

/-- The time with the letter for UTC. -/
def zuluText (t : Timestamp) : String := t.text ++ "Z"

/-- The time with its offset in digits. -/
def offsetText (t : Timestamp) : String := t.text ++ "+00:00"

/-- Reads a number of at most `width` digits, behind any blanks. -/
def number? (width : Nat) (cs : List Char) : Option (Nat × List Char) := do
  let cs := cs.dropWhile Chars.isBlank
  let ds := (cs.take width).takeWhile Char.isDigit
  return (← Numeral.digits? 10 ds, cs.drop ds.length)

/-- Reads a year of at most four digits, or of any number behind a sign. -/
def year? (cs : List Char) : Option (Int × List Char) := do
  let cs := cs.dropWhile Chars.isBlank
  let signed? (cs : List Char) := match cs with
    | c :: _ => if c.isDigit then number? cs.length cs else none
    | [] => none
  match cs with
  | '-' :: cs => (signed? cs).map fun (n, cs) => (-(n : Int), cs)
  | '+' :: cs => (signed? cs).map fun (n, cs) => ((n : Int), cs)
  | cs => (number? 4 cs).map fun (n, cs) => ((n : Int), cs)

/-- Reads one character, behind any blanks. -/
def mark? (mark : Char) (cs : List Char) : Option (List Char) :=
  match cs.dropWhile Chars.isBlank with
  | c :: cs => if c = mark then some cs else none
  | [] => none

/-- Reads the character between date and time, the letter `T` or a space. -/
def separator? : List Char → Option (List Char)
  | c :: cs => if c = 'T' ∨ c = 't' ∨ c = ' ' then some cs else none
  | [] => none

/-- Reads the fraction of a second in nanoseconds; further places are dropped. -/
def fraction? : List Char → Option (Nat × List Char)
  | '.' :: cs => do
    let ds := cs.takeWhile Char.isDigit
    let kept := ds.take 9
    let n ← Numeral.digits? 10 kept
    return (n * Nat.pow 10 (9 - kept.length), cs.drop ds.length)
  | cs => some (0, cs)

/-- Reads two digits as a number below a hundred. -/
def twoDigits? (cs : List Char) : Option (Nat × List Char) := do
  guard (2 ≤ cs.length)
  return (← Numeral.digits? 10 (cs.take 2), cs.drop 2)

/-- Reads the offset of a local time in minutes: hours and minutes behind a sign, with colons and
blanks between them. -/
def signedOffset? (cs : List Char) : Option (Int × List Char) := do
  let (sign, cs) ← match cs with
    | '+' :: cs => some ((1 : Int), cs)
    | '-' :: cs | '\u2212' :: cs => some (-1, cs)
    | _ => none
  let (hours, cs) ← twoDigits? cs
  let (minutes, cs) ← twoDigits? (cs.dropWhile fun c => c == ':' || Chars.isBlank c)
  guard (minutes < 60 ∧ hours < 24)
  return (sign * (hours * 60 + minutes : Nat), cs)

/-- Reads an offset in minutes; the letter `Z` and the name `UTC` stand for none. -/
def offset? (cs : List Char) : Option (Int × List Char) :=
  if (cs.take 3).map Char.toUpper = ['U', 'T', 'C'] then some (0, cs.drop 3)
  else match cs with
    | 'Z' :: cs | 'z' :: cs => some (0, cs)
    | cs => signedOffset? cs

/-- Reads a point in time. -/
def ofText? (s : String) : Option Timestamp := do
  let (year, cs) ← year? s.toList
  let (month, cs) ← number? 2 (← mark? '-' cs)
  let (day, cs) ← number? 2 (← mark? '-' cs)
  let (hour, cs) ← number? 2 (← separator? cs)
  let (minute, cs) ← number? 2 (← mark? ':' cs)
  let (second, cs) ← number? 2 (← mark? ':' cs)
  let (nanosecond, cs) ← fraction? cs
  let (offset, cs) ← offset? (cs.dropWhile Chars.isBlank)
  guard (cs.all Chars.isBlank)
  let t : Timestamp := { date := { year, month, day }, hour, minute, second, nanosecond }
  guard t.isValid
  let t := t.ofLocal offset
  guard t.isValid
  return t

end Timestamp

end StorageInventory
