import Mathlib.Data.List.TakeWhile
import StorageInventory.Proofs.Number.Digits
import StorageInventory.Proofs.Text.Lines
import StorageInventory.Timestamp

/-!
# Points in time that are written and read again

A point in time whose year has four digits is read from its text as the same point
(`Timestamp.ofText?_zuluText`).
-/

namespace StorageInventory
variable {n width : Nat} {rest : List Char}

theorem Numeral.toList_padded (width n : Nat) :
    (Numeral.padded width n).toList = Numeral.padStart width '0' (Nat.toDigits 10 n) :=
  String.toList_ofList

theorem Chars.dropWhile_isBlank_padStart (width n : Nat) (rest : List Char) :
    (Numeral.padStart width '0' (Nat.toDigits 10 n) ++ rest).dropWhile Chars.isBlank =
      Numeral.padStart width '0' (Nat.toDigits 10 n) ++ rest := by
  obtain ⟨c, cs, hcs, hc⟩ := Numeral.padStart_first width n
  rw [hcs, List.cons_append, List.dropWhile_cons_of_neg]
  rw [Chars.isBlank_of_isDigit hc]
  exact Bool.false_ne_true

theorem Date.lt_hundred {d : Date} (h : d.isValid = true) : d.month < 100 ∧ d.day < 100 := by
  have hdays : Date.daysIn d.year d.month ≤ 31 := by
    unfold Date.daysIn
    split
    · split <;> omega
    · split <;> omega
  simp only [Date.isValid, Bool.and_eq_true, decide_eq_true_eq] at h
  omega

namespace Timestamp

/-! ## The parts of the text -/

/-- A number of at most the width is read back from its digits, whatever follows them. -/
theorem number?_padStart (hwidth : 0 < width) (hn : n < Nat.pow 10 width) (rest : List Char) :
    number? width (Numeral.padStart width '0' (Nat.toDigits 10 n) ++ rest) = some (n, rest) := by
  have hlength := Numeral.length_padStart (by decide : 1 < 10) hwidth hn
  have htake : (Numeral.padStart width '0' (Nat.toDigits 10 n) ++ rest).take width =
      Numeral.padStart width '0' (Nat.toDigits 10 n) := List.take_left' hlength
  have hdigits : (Numeral.padStart width '0' (Nat.toDigits 10 n)).takeWhile Char.isDigit =
      Numeral.padStart width '0' (Nat.toDigits 10 n) :=
    List.takeWhile_eq_self_iff.mpr fun _ => Numeral.isDigit_of_mem_padStart
  simp only [number?, Chars.dropWhile_isBlank_padStart, htake, hdigits, List.drop_left,
    Numeral.digits?_padStart (by decide : 1 < 10) (by decide)]
  rfl

/-- A year of at most four digits is written without a sign, and read back. -/
theorem year?_yearText {year : Int} (hyear : 0 ≤ year ∧ year ≤ 9999) (rest : List Char) :
    year? ((yearText year).toList ++ rest) = some (year, rest) := by
  obtain ⟨c, cs, hcs, hc⟩ := Numeral.padStart_first 4 year.toNat
  have hnumber := number?_padStart (by decide : 0 < 4) (by omega : year.toNat < 10000) rest
  have hdrop := Chars.dropWhile_isBlank_padStart 4 year.toNat rest
  rw [yearText, if_pos hyear, Numeral.toList_padded]
  rw [hcs, List.cons_append] at hnumber hdrop ⊢
  unfold year?
  simp only [hdrop]
  split
  · rename_i heq
    cases heq
    cases hc
  · rename_i heq
    cases heq
    cases hc
  · rw [hnumber, Option.map_some, Int.toNat_of_nonneg hyear.1]

theorem mark?_cons (h : Chars.isBlank mark = false) (cs : List Char) :
    mark? mark (mark :: cs) = some cs := by
  rw [mark?, List.dropWhile_cons_of_neg (Bool.not_eq_true _ ▸ h)]
  exact if_pos rfl

theorem fraction?_padStart (hwidth : 0 < width) (hnine : width ≤ 9)
    (hn : n < Nat.pow 10 width) (rest : List Char) :
    fraction? ('.' :: (Numeral.padStart width '0' (Nat.toDigits 10 n) ++ 'Z' :: rest)) =
      some (n * Nat.pow 10 (9 - width), 'Z' :: rest) := by
  have hlength := Numeral.length_padStart (by decide : 1 < 10) hwidth hn
  have hdigits : (Numeral.padStart width '0' (Nat.toDigits 10 n) ++ 'Z' :: rest).takeWhile
      Char.isDigit = Numeral.padStart width '0' (Nat.toDigits 10 n) := by
    rw [List.takeWhile_append_of_pos fun _ => Numeral.isDigit_of_mem_padStart,
      List.takeWhile_cons_of_neg (by decide), List.append_nil]
  have htake : (Numeral.padStart width '0' (Nat.toDigits 10 n)).take 9 =
      Numeral.padStart width '0' (Nat.toDigits 10 n) :=
    List.take_of_length_le (hlength.trans_le hnine)
  simp only [fraction?, hdigits, htake, List.drop_left,
    Numeral.digits?_padStart (by decide : 1 < 10) (by decide)]
  rw [hlength]
  rfl

/-- Trailing zeros may be left out: `unit` nanoseconds are one at the last of `width` places. -/
theorem fraction?_padded {width unit : Nat} (hwidth : 0 < width) (hnine : width ≤ 9)
    (hunit : unit = Nat.pow 10 (9 - width)) (hmod : n % unit = 0) (hn : n < 1000000000)
    (rest : List Char) :
    fraction? (("." ++ Numeral.padded width (n / unit)).toList ++ 'Z' :: rest) =
      some (n, 'Z' :: rest) := by
  have hpow : unit * Nat.pow 10 width = 1000000000 := by
    have hadd := Nat.pow_add 10 (9 - width) width
    rw [Nat.sub_add_cancel hnine] at hadd
    rw [hunit]
    exact hadd.symm
  have hlt : n / unit < Nat.pow 10 width := Nat.div_lt_of_lt_mul (hpow ▸ hn)
  have h := fraction?_padStart hwidth hnine hlt rest
  rw [← hunit, Nat.div_mul_cancel (Nat.dvd_of_mod_eq_zero hmod)] at h
  rw [String.toList_append, Numeral.toList_padded]
  exact h

/-- Nanoseconds are read back from three, six or nine digits, or from none. -/
theorem fraction?_fractionText (hn : n < 1000000000) (rest : List Char) :
    fraction? ((fractionText n).toList ++ 'Z' :: rest) = some (n, 'Z' :: rest) := by
  unfold fractionText
  split
  · subst n
    rfl
  split
  · rename_i hmod
    exact fraction?_padded (by decide : 0 < 3) (by decide) rfl hmod hn rest
  split
  · rename_i hmod
    exact fraction?_padded (by decide : 0 < 6) (by decide) rfl hmod hn rest
  · have h := fraction?_padded (by decide : 0 < 9) (by decide) rfl (Nat.mod_one n) hn rest
    rwa [Nat.div_one] at h

/-- At offset zero the local time is the time itself. -/
theorem ofLocal_zero {t : Timestamp} (hhour : t.hour < 24) (hminute : t.minute < 60) :
    t.ofLocal 0 = t := by
  obtain ⟨date, hour, minute, second, nanosecond⟩ := t
  dsimp only at hhour hminute
  have hday : ¬ ((hour * 60 + minute : Int) - 0 < 0) := by omega
  have hnext : ¬ (minutesPerDay ≤ (hour * 60 + minute : Int) - 0) := by
    rw [minutesPerDay]
    omega
  have hminutes :
      (((hour * 60 + minute : Int) - 0) % minutesPerDay).toNat = hour * 60 + minute := by
    rw [minutesPerDay]
    omega
  have hhours : (hour * 60 + minute) / 60 = hour := by omega
  have hrest : (hour * 60 + minute) % 60 = minute := by omega
  simp only [ofLocal, hday, hnext, hminutes, hhours, hrest, if_false]

/-! ## The whole text -/

/-- The text of a time, part by part. -/
theorem toList_zuluText (t : Timestamp) : t.zuluText.toList =
    (yearText t.date.year).toList ++
      '-' :: (Numeral.padStart 2 '0' (Nat.toDigits 10 t.date.month) ++
      '-' :: (Numeral.padStart 2 '0' (Nat.toDigits 10 t.date.day) ++
      'T' :: (Numeral.padStart 2 '0' (Nat.toDigits 10 t.hour) ++
      ':' :: (Numeral.padStart 2 '0' (Nat.toDigits 10 t.minute) ++
      ':' :: (Numeral.padStart 2 '0' (Nat.toDigits 10 t.second) ++
        ((fractionText t.nanosecond).toList ++ ['Z'])))))) := by
  simp only [zuluText, text, String.toList_append, Numeral.toList_padded, List.append_assoc]
  rfl

theorem isValid_iff {t : Timestamp} : t.isValid = true ↔ t.date.isValid = true ∧ t.hour < 24 ∧
    t.minute < 60 ∧ t.second ≤ 60 ∧ t.nanosecond < 1000000000 := by
  simp only [isValid, Bool.and_eq_true, decide_eq_true_eq, and_assoc]

/-- A point in time is read from its text when its year has four digits. -/
theorem ofText?_zuluText {t : Timestamp} (h : t.isValid = true)
    (hyear : 0 ≤ t.date.year ∧ t.date.year ≤ 9999) : ofText? t.zuluText = some t := by
  obtain ⟨hdate, hhour, hminute, hsecond, hnanosecond⟩ := isValid_iff.mp h
  obtain ⟨hmonth, hday⟩ := Date.lt_hundred hdate
  have htwo : ∀ n < 100, ∀ rest, number? 2 (Numeral.padStart 2 '0' (Nat.toDigits 10 n) ++ rest) =
      some (n, rest) := fun n hn => number?_padStart (by decide) hn
  have hdash : ∀ cs, mark? '-' ('-' :: cs) = some cs := mark?_cons (by decide)
  have hcolon : ∀ cs, mark? ':' (':' :: cs) = some cs := mark?_cons (by decide)
  have hletter : ∀ cs, separator? ('T' :: cs) = some cs := fun _ => rfl
  have some_bind {α β : Type} (a : α) (f : α → Option β) : (some a >>= f) = f a := rfl
  have hzone : offset? (['Z'].dropWhile Chars.isBlank) = some (0, []) := by decide
  -- Each round reads one number and the mark in front of the next, off the head of the text.
  rw [ofText?, toList_zuluText, year?_yearText hyear, some_bind]
  dsimp only
  rw [hdash, some_bind, htwo _ hmonth, some_bind]
  dsimp only
  rw [hdash, some_bind, htwo _ hday, some_bind]
  dsimp only
  rw [hletter, some_bind, htwo t.hour (by omega), some_bind]
  dsimp only
  rw [hcolon, some_bind, htwo t.minute (by omega), some_bind]
  dsimp only
  rw [hcolon, some_bind, htwo t.second (by omega), some_bind]
  dsimp only
  rw [fraction?_fractionText hnanosecond, some_bind]
  dsimp only
  rw [hzone, some_bind]
  dsimp only
  rw [h, ofLocal_zero hhour hminute, h]
  rfl

end Timestamp

end StorageInventory
