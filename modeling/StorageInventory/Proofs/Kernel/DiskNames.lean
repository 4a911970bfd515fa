import Mathlib.Data.List.Shortlex
import StorageInventory.Proofs.Kernel.ListingOrder

/-!
# The kernel's numbering of disks

The kernel names its disks by number: `a` to `z` behind the driver's own letters, then `aa`, `ab`
and so on, as many letters as it takes (`diskLabel`). Main statement: the order of names is a total
order, and it is the order of the numbers wherever names begin alike (`nameOrder_diskLabel`).
-/

namespace StorageInventory.Kernel

/-- The letter of a digit below 26. -/
def diskLetter (d : Nat) : Char := Char.ofNat ('a'.toNat + d)

/-- The letters of the disk with a number. After `z` another letter stands in front, and the count
of the last letter begins anew. -/
def diskLetters (n : Nat) : List Char :=
  if n < 26 then [diskLetter n] else diskLetters (n / 26 - 1) ++ [diskLetter (n % 26)]
  termination_by n
  decreasing_by omega

/-- What the name of the disk with a number ends with. -/
def diskLabel (n : Nat) : String := String.ofList (diskLetters n)

example : [0, 25, 26, 701, 702].map diskLabel = ["a", "z", "aa", "zz", "aaa"] := by decide +kernel

@[simp] theorem toList_diskLabel (n : Nat) : (diskLabel n).toList = diskLetters n :=
  String.toList_ofList

/-! ## Letters -/

theorem diskLetter_lt {d e : Nat} (hde : d < e) (he : e < 26) : diskLetter d < diskLetter e := by
  have hall : ∀ e < 26, ∀ d < e, diskLetter d < diskLetter e := by decide
  exact hall e he d hde

theorem utf8Size_diskLetter {d : Nat} (hd : d < 26) : (diskLetter d).utf8Size = 1 := by
  have hall : ∀ d < 26, (diskLetter d).utf8Size = 1 := by decide
  exact hall d hd

theorem diskLetters_of_lt {n : Nat} (h : n < 26) : diskLetters n = [diskLetter n] := by
  rw [diskLetters, if_pos h]

/-- The last letter of a label is its last digit, and the others are the label of a smaller number.
-/
theorem diskLetters_of_le {n : Nat} (h : 26 ≤ n) :
    diskLetters n = diskLetters (n / 26 - 1) ++ [diskLetter (n % 26)] := by
  rw [diskLetters, if_neg (Nat.not_lt.mpr h)]

theorem length_diskLetters_pos (n : Nat) : 0 < (diskLetters n).length := by
  rw [diskLetters]
  split <;> simp

theorem length_diskLetters_of_le {n : Nat} (h : 26 ≤ n) :
    (diskLetters n).length = (diskLetters (n / 26 - 1)).length + 1 := by
  rw [diskLetters_of_le h, List.length_append, List.length_singleton]

theorem utf8ByteSize_diskLabel (n : Nat) :
    (diskLabel n).utf8ByteSize = (diskLetters n).length := by
  have hletter {d : Nat} (hd : d < 26) : (String.ofList [diskLetter d]).utf8ByteSize = 1 := by
    rw [← String.singleton_eq_ofList, String.utf8ByteSize_singleton, utf8Size_diskLetter hd]
  induction n using diskLetters.induct with
  | case1 n h => rw [diskLabel, diskLetters_of_lt h, hletter h, List.length_singleton]
  | case2 n h ih =>
    have hle : 26 ≤ n := Nat.not_lt.mp h
    rw [diskLabel, diskLetters_of_le hle, String.ofList_append, String.utf8ByteSize_append,
      hletter (Nat.mod_lt n (by decide)), List.length_append, List.length_singleton, ← ih,
      diskLabel]

/-- Texts of one length are compared by the first character in which they differ. -/
theorem lex_append {s t : List Char} (h : List.Lex (· < ·) s t) (hlength : s.length = t.length)
    (x y : List Char) : List.Lex (· < ·) (s ++ x) (t ++ y) := by
  induction h with
  | nil => cases hlength
  | cons _ ih => exact .cons (ih (Nat.succ.inj hlength))
  | rel hlt => exact .rel hlt

/-- A greater number has more letters, or as many and a greater one at the first difference. -/
theorem diskLetters_shortlex {i j : Nat} (h : i < j) :
    List.Shortlex (· < ·) (diskLetters i) (diskLetters j) := by
  -- The induction takes off the last letter; in front of it is the label of a number too.
  induction j using Nat.strong_induction_on generalizing i with
  | _ j ih =>
    rcases Nat.lt_or_ge j 26 with hj | hj
    · rw [diskLetters_of_lt (h.trans hj), diskLetters_of_lt hj, List.shortlex_singleton_iff]
      exact diskLetter_lt h hj
    rcases Nat.lt_or_ge i 26 with hi | hi
    · refine .of_length_lt ?_
      have hpos := length_diskLetters_pos (j / 26 - 1)
      rw [diskLetters_of_lt hi, length_diskLetters_of_le hj, List.length_singleton]
      omega
    rw [diskLetters_of_le hi, diskLetters_of_le hj]
    rcases (Nat.div_le_div_right (c := 26) h.le).lt_or_eq with hdiv | hdiv
    · have hfront := ih (j / 26 - 1) (by omega) (i := i / 26 - 1) (by omega)
      rcases List.shortlex_def.mp hfront with hlength | ⟨hlength, hlex⟩
      · exact .of_length_lt (by simpa using hlength)
      · exact .of_lex (by simpa using hlength) (lex_append hlex hlength _ _)
    · rw [hdiv]
      refine .append_left ?_ _
      rw [List.shortlex_singleton_iff]
      exact diskLetter_lt (by omega) (by omega)

/-! ## Names -/

/-- A shorter name is in front, and of two with one length the smaller text is. -/
theorem nameOrder_eq_lt_iff {a b : String} :
    nameOrder a b = .lt ↔
      a.utf8ByteSize < b.utf8ByteSize ∨ a.utf8ByteSize = b.utf8ByteSize ∧ a.toList < b.toList := by
  have hcompare : compare a b = .lt ↔ a.toList < b.toList := by
    rw [← String.lt_iff]
    exact compareOfLessAndEq_eq_lt
  rw [nameOrder, Ordering.then_eq_lt, hcompare, Nat.compare_eq_lt, Nat.compare_eq_eq]

/-- The order of names tells all names apart and is the kernel's order of disks. -/
theorem nameOrder_diskLabel :
    (∀ (front : String) (i j : Nat), i < j →
      nameOrder (front ++ diskLabel i) (front ++ diskLabel j) = .lt) ∧
    (∀ a b, nameOrder a b = .eq ↔ a = b) ∧
    (∀ a b, nameOrder b a = (nameOrder a b).swap) ∧
    ∀ a b c, (nameOrder a b).isLE = true → (nameOrder b c).isLE = true →
      (nameOrder a c).isLE = true := by
  refine ⟨fun front i j h => ?_, fun a b => ?_, fun a b => ?_, fun a b c => ?_⟩
  · rw [nameOrder_eq_lt_iff]
    simp only [String.utf8ByteSize_append, utf8ByteSize_diskLabel, Nat.add_lt_add_iff_left,
      Nat.add_left_cancel_iff, String.toList_append, toList_diskLabel]
    exact (List.shortlex_def.mp (diskLetters_shortlex h)).imp_right fun ⟨hlength, hlex⟩ =>
      ⟨hlength, List.append_left_lt hlex⟩
  · exact Std.LawfulEqCmp.compare_eq_iff_eq
  · exact Std.OrientedCmp.eq_swap
  · exact Std.TransCmp.isLE_trans

/-- Another letter stands in front of what follows `zz`. -/
theorem nameOrder_diskLabel_carry : nameOrder "sdzz" "sdaaa" = .lt := by
  have hzz : "sd" ++ diskLabel 701 = "sdzz" := by decide +kernel
  have haaa : "sd" ++ diskLabel 702 = "sdaaa" := by decide +kernel
  have hlt := nameOrder_diskLabel.1 "sd" 701 702 (by decide)
  rwa [hzz, haaa] at hlt

end StorageInventory.Kernel
