import StorageInventory.Number.Numeral

/-!
# Digits that are written and read again

The digits of a number are read as that number, with leading zeros and without
(`Numeral.digits?_padStart`, `Numeral.digits?_toDigits`), and so is a number that is shown as text
(`Numeral.natural?_toString`).
-/

namespace StorageInventory.Numeral
variable {radix n : Nat}

theorem digit?_digitChar (hradix : radix ≤ 16) (hd : d < radix) :
    digit? radix d.digitChar = some d := by
  have hall : ∀ d < 16, digit? 16 d.digitChar = some d := by decide
  have hd16 := hall d (Nat.lt_of_lt_of_le hd hradix)
  unfold digit? at hd16 ⊢
  rw [Option.filter_eq_some_iff] at hd16 ⊢
  exact ⟨hd16.1, decide_eq_true hd⟩

/-- Digits are read one behind the other, from the value of those in front. -/
theorem continue?_append (value : Nat) (cs ds : List Char) :
    continue? radix value (cs ++ ds) =
      (continue? radix value cs).bind fun value => continue? radix value ds := by
  induction cs generalizing value with
  | nil => rfl
  | cons c cs ih => simp only [List.cons_append, continue?, ih, Option.bind_assoc]

theorem continue?_digitChar (hradix : radix ≤ 16) (hd : d < radix) (value : Nat) :
    continue? radix value [d.digitChar] = some (value * radix + d) := by
  rw [continue?, digit?_digitChar hradix hd]
  rfl

theorem continue?_toDigits (htwo : 1 < radix) (hradix : radix ≤ 16) :
    continue? radix 0 (Nat.toDigits radix n) = some n := by
  -- The reader goes from the first digit to the last, so the induction takes off the last one.
  induction n using Nat.base_induction radix htwo with
  | single d hd => rw [Nat.toDigits_of_lt_base hd, continue?_digitChar hradix hd, Nat.zero_mul,
      Nat.zero_add]
  | digit m d hd hm ih =>
    rw [← Nat.toDigits_append_toDigits htwo hm hd, Nat.toDigits_of_lt_base hd, continue?_append,
      ih, Option.bind_some, continue?_digitChar hradix hd, Nat.mul_comm]

theorem exists_of_mem_toDigits (htwo : 1 < radix) (h : c ∈ Nat.toDigits radix n) :
    ∃ d < radix, c = d.digitChar := by
  induction n using Nat.base_induction radix htwo with
  | single d hd =>
    rw [Nat.toDigits_of_lt_base hd] at h
    exact ⟨d, hd, List.mem_singleton.mp h⟩
  | digit m d hd hm ih =>
    rw [← Nat.toDigits_append_toDigits htwo hm hd, Nat.toDigits_of_lt_base hd] at h
    rcases List.mem_append.mp h with h | h
    · exact ih h
    · exact ⟨d, hd, List.mem_singleton.mp h⟩

/-- Leading zeros do not count. -/
theorem continue?_zeros (htwo : 1 < radix) (hradix : radix ≤ 16) (zeros : Nat) (cs : List Char) :
    continue? radix 0 (List.replicate zeros '0' ++ cs) = continue? radix 0 cs := by
  have hzero : digit? radix '0' = some 0 := digit?_digitChar hradix (Nat.lt_of_succ_lt htwo)
  induction zeros with
  | zero => rfl
  | succ zeros ih =>
    rw [List.replicate_succ, List.cons_append, continue?, hzero, Option.bind_some, Nat.zero_mul,
      Nat.add_zero, ih]

theorem padStart_ne_nil (radix width n : Nat) : padStart width '0' (Nat.toDigits radix n) ≠ [] :=
  fun h => Nat.toDigits_ne_nil (List.append_eq_nil_iff.mp h).2

/-- Digits with leading zeros are read as the number that they were written for. -/
theorem digits?_padStart (htwo : 1 < radix) (hradix : radix ≤ 16) (width n : Nat) :
    digits? radix (padStart width '0' (Nat.toDigits radix n)) = some n := by
  have hne := List.isEmpty_eq_false_iff.mpr (padStart_ne_nil radix width n)
  rw [digits?, hne, padStart, continue?_zeros htwo hradix, continue?_toDigits htwo hradix]
  rfl

theorem digits?_toDigits (htwo : 1 < radix) (hradix : radix ≤ 16) (n : Nat) :
    digits? radix (Nat.toDigits radix n) = some n := by
  have h := digits?_padStart htwo hradix 0 n
  rwa [padStart, Nat.zero_sub, List.replicate_zero, List.nil_append] at h

/-- A number that fits a width is padded to it exactly. -/
theorem length_padStart {width : Nat} (htwo : 1 < radix) (hwidth : 0 < width)
    (hn : n < Nat.pow radix width) :
    (padStart width '0' (Nat.toDigits radix n)).length = width := by
  have hlength := (Nat.length_toDigits_le_iff htwo hwidth).mpr hn
  rw [padStart, List.length_append, List.length_replicate]
  omega

theorem isDigit_of_mem_padStart {width : Nat} (h : c ∈ padStart width '0' (Nat.toDigits 10 n)) :
    c.isDigit = true := by
  rcases List.mem_append.mp h with h | h
  · rw [List.eq_of_mem_replicate h]
    rfl
  · exact Nat.isDigit_of_mem_toDigits (by decide) (by decide) h

theorem padStart_first (width n : Nat) :
    ∃ d ds, padStart width '0' (Nat.toDigits 10 n) = d :: ds ∧ d.isDigit = true := by
  obtain ⟨d, ds, hds⟩ := List.exists_cons_of_ne_nil (padStart_ne_nil 10 width n)
  exact ⟨d, ds, hds, isDigit_of_mem_padStart (hds ▸ List.mem_cons_self)⟩

theorem toDigits_first (n : Nat) :
    ∃ d ds, Nat.toDigits 10 n = d :: ds ∧ d.isDigit = true := by
  have h := padStart_first 0 n
  rwa [padStart, Nat.zero_sub, List.replicate_zero, List.nil_append] at h

theorem toList_toString (n : Nat) : (toString n).toList = Nat.toDigits 10 n := Nat.toList_repr

theorem isDigit_of_mem_toString (h : c ∈ (toString n).toList) : c.isDigit = true :=
  Nat.isDigit_of_mem_toDigits (by decide) (by decide) (toList_toString n ▸ h)

/-- Digits are read up to the bound; the sign that may stand in front of them is no digit. -/
theorem natural?_eq_filter {s : String} (bound : Nat) (h : digits? radix s.toList = some n) :
    natural? radix bound s = (some n).filter (· < bound) := by
  rw [natural?]
  split
  next cs heq =>
    have hplus : digit? radix '+' = none := by simp [digit?]
    rw [heq, digits?, List.isEmpty_cons, if_neg Bool.false_ne_true, continue?, hplus] at h
    cases h
  next => rw [h]

theorem natural?_of_digits? {bound : Nat} (h : digits? radix cs = some n) (hn : n < bound) :
    natural? radix bound (String.ofList cs) = some n := by
  rw [natural?_eq_filter bound (by rwa [String.toList_ofList]), Option.filter_some,
    if_pos (decide_eq_true hn)]

/-- A sign in front of the digits is passed over. -/
theorem natural?_plus (radix bound : Nat) (cs : List Char) :
    natural? radix bound (String.ofList ('+' :: cs)) = (digits? radix cs).filter (· < bound) := by
  rw [natural?, String.toList_ofList]
  rfl

/-- A number below the bound is read as it is shown. -/
theorem natural?_toString {bound : Nat} (h : n < bound) :
    natural? 10 bound (toString n) = some n := by
  rw [← String.ofList_toList (s := toString n), toList_toString]
  exact natural?_of_digits? (digits?_toDigits (by decide) (by decide) n) h

/-- A number in decimal digits is read as a 32-bit word when there is such a word. -/
theorem word32?_of_digits? {s : String} (h : digits? 10 s.toList = some n) :
    word32? s = if n < UInt32.size then some (.ofNat n) else none := by
  rw [word32?, natural?_eq_filter _ h, Option.filter_some]
  split <;> simp_all

theorem word32?_toString (n : UInt32) : word32? (toString n) = some n := by
  have hread : natural? 10 UInt32.size (toString n) = some n.toNat :=
    natural?_toString n.toNat_lt
  rw [word32?, hread, Option.map_some, UInt32.ofNat_toNat]

theorem word64?_toString (h : n < UInt64.size) : word64? (toString n) = some (UInt64.ofNat n) := by
  rw [word64?, natural?_toString h, Option.map_some]

/-- Only the digits of zero begin with a zero. -/
theorem eq_zero_of_toDigits (h : (Nat.toDigits 10 n).head? = some '0') : n = 0 := by
  induction n using Nat.base_induction 10 (by decide) with
  | single d hd =>
    rw [Nat.toDigits_of_lt_base hd] at h
    exact Nat.digitChar_eq_zero.mp (Option.some.inj h)
  | digit m d hd hm ih =>
    obtain ⟨c, cs, hcs, -⟩ := toDigits_first m
    rw [← Nat.toDigits_append_toDigits (by decide) hm hd, hcs, List.cons_append] at h
    exact absurd (ih (hcs ▸ h)) (Nat.ne_of_gt hm)

end StorageInventory.Numeral
