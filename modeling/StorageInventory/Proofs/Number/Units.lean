import StorageInventory.Proofs.Number.Exact
import StorageInventory.Proofs.Text.Lines
import StorageInventory.Proofs.Text.Search

/-!
# The unit of a printed size

A size is printed as a whole number, its unit, and possibly more text behind a blank. The unit that
counts is the least one that stands anywhere in the text (`Size.Counts`). Main statement: the size
is read with that unit, so that it is the printed size exactly when no lesser unit stands in the
rest (`Size.ofText_printed`).
-/

namespace StorageInventory.Size
variable {n power : Nat} {unit rest text : String} {u v : String × Nat}

/-- A text that begins with a number of units, with blanks between the two; the rest is parted from
them by a blank. -/
inductive Printed (n : Nat) (unit rest : String) : String → Prop
  | intro (gap : String) : gap.toList ≠ [] → (∀ c ∈ gap.toList, Chars.isBlank c = true) →
    (∀ c ∈ rest.toList.head?, Chars.isBlank c = true) →
    Printed n unit rest (toString n ++ gap ++ unit ++ rest)

/-- The unit that counts in a printed size: the least among the printed one and those that stand in
the rest. -/
structure Counts (unit rest : String) (u : String × Nat) : Prop where
  mem : u ∈ units
  stands : u.1 = unit ∨ Text.holds rest u.1 = true
  least : ∀ v ∈ units, v.2 < u.2 → v.1 ≠ unit ∧ Text.holds rest v.1 = false

/-! ## Units -/

theorem units_letters (hu : u ∈ units) :
    u.1.toList.length = 2 ∧ ∀ c ∈ u.1.toList, Chars.isBlank c = false ∧ c.isDigit = false := by
  have hall : ∀ u ∈ units, u.1.toList.length = 2 ∧
      u.1.toList.any (fun c => Chars.isBlank c || c.isDigit) = false := by decide
  simpa using hall u hu

theorem unit_ne_nil (hu : u ∈ units) : u.1.toList ≠ [] := by
  intro hnil
  have hlength := (units_letters hu).1
  rw [hnil] at hlength
  cases hlength

theorem blank_notMem_unit (hu : u ∈ units) (hc : Chars.isBlank c = true) : c ∉ u.1.toList := by
  intro hmem
  rw [((units_letters hu).2 c hmem).1] at hc
  cases hc

theorem power_inj (hu : u ∈ units) (hv : v ∈ units) (h : u.1 = v.1) : u.2 = v.2 := by
  have hall : ∀ u ∈ units, ∀ v ∈ units, u.1 = v.1 → u.2 = v.2 := by decide
  exact hall u hu v hv h

/-- The first unit of the table that is found is the least one. -/
theorem find?_units {p : String × Nat → Bool} (h : units.find? p = some u) :
    u ∈ units ∧ p u = true ∧ ∀ v ∈ units, v.2 < u.2 → p v = false := by
  refine ⟨List.mem_of_find?_eq_some h, List.find?_some h, fun v hv hlt => ?_⟩
  have hsorted : units.Pairwise (·.2 < ·.2) := by decide
  obtain ⟨-, front, back, hunits, hfront⟩ := List.find?_eq_some_iff_append.mp h
  rw [hunits] at hsorted hv
  rcases List.mem_append.mp hv with hv | hv
  · simpa using hfront v hv
  · have hle : ∀ w ∈ u :: back, u.2 ≤ w.2 := by
      rw [List.forall_mem_cons]
      exact ⟨Nat.le_refl _, fun w hw =>
        Nat.le_of_lt (List.rel_of_pairwise_cons (List.pairwise_append.mp hsorted).2.1 hw)⟩
    exact absurd hlt (Nat.not_lt.mpr (hle v hv))

/-! ## Texts -/

theorem Printed.words_eq (h : Printed n unit rest text) :
    ∃ more, Text.words text = toString n :: more := by
  cases h with
  | intro gap hne hgap hrest =>
    obtain ⟨c, gap', hcons⟩ := List.exists_cons_of_ne_nil hne
    have hc : Chars.isBlank c = true := hgap c (hcons ▸ List.mem_cons_self)
    have hlist : (toString n ++ gap ++ unit ++ rest).toList =
        (toString n).toList ++ c :: (gap' ++ unit.toList ++ rest.toList) := by
      simp [hcons]
    have hdigits : Chars.words (toString n).toList = [(toString n).toList] :=
      Chars.words_of_notBlank (Numeral.toList_toString n ▸ Nat.toDigits_ne_nil)
        fun c hc => Chars.isBlank_of_isDigit (Numeral.isDigit_of_mem_toString hc)
    refine ⟨(Chars.words (gap' ++ unit.toList ++ rest.toList)).map String.ofList, ?_⟩
    rw [Text.words, hlist, Chars.words_append_cons _ hc, hdigits, List.map_append,
      List.map_singleton, String.ofList_toList, List.singleton_append]

/-- What stands in a printed size is its unit or stands in the rest. -/
theorem Printed.holds_iff (h : Printed n unit rest text) (hunit : (unit, power) ∈ units)
    (hu : u ∈ units) :
    Text.holds text u.1 = true ↔ u.1 = unit ∨ Text.holds rest u.1 = true := by
  obtain ⟨hlength, hletters⟩ := units_letters hu
  have hne : u.1.toList ≠ [] := unit_ne_nil hu
  have hdigits : ¬ u.1.toList <:+: (toString n).toList := by
    intro hpart
    obtain ⟨c, cs, hcs⟩ := List.exists_cons_of_ne_nil hne
    have hc : c ∈ u.1.toList := hcs ▸ List.mem_cons_self
    have hdigit := Numeral.isDigit_of_mem_toString (hpart.subset hc)
    rw [(hletters c hc).2] at hdigit
    cases hdigit
  have hsame : u.1.toList <:+: unit.toList ↔ u.1 = unit := by
    rw [← String.toList_inj]
    constructor
    · exact fun hpart => hpart.eq_of_length (hlength.trans (units_letters hunit).1.symm)
    · exact fun heq => heq ▸ List.infix_refl _
  cases h with
  | intro gap hgapNe hgap hrest =>
    have hlist : (toString n ++ gap ++ unit ++ rest).toList =
        (toString n).toList ++ (gap.toList ++ (unit.toList ++ rest.toList)) := by
      simp
    rw [Text.holds_iff, Text.holds_iff, hlist, Chars.infix_append_separator hgapNe
      (fun c hc => blank_notMem_unit hu (hgap c hc)) hne, or_iff_right hdigits, ← hsame]
    cases hrestList : rest.toList with
    | nil => rw [List.append_nil, List.infix_nil, or_iff_left hne]
    | cons c cs =>
      have hc : c ∉ u.1.toList := blank_notMem_unit hu (hrest c (by rw [hrestList]; rfl))
      have hfront := Chars.infix_append_cons hc [] cs
      rw [List.nil_append, List.infix_nil, or_iff_right hne] at hfront
      rw [Chars.infix_append_cons hc, hfront]

/-- The unit that a printed size is read with. -/
theorem Printed.exists_counts (h : Printed n unit rest text) (hunit : (unit, power) ∈ units)
    (base : SizeBase) :
    ∃ u, Counts unit rest u ∧ unitBytes base text = Nat.pow base.factor u.2 := by
  have hstands := (h.holds_iff hunit hunit).mpr (.inl rfl)
  cases hfind : units.find? fun u => Text.holds text u.1 with
  | none => exact absurd hstands (List.find?_eq_none.mp hfind _ hunit)
  | some u =>
    obtain ⟨hmem, hu, hleast⟩ := find?_units hfind
    refine ⟨u, ⟨hmem, (h.holds_iff hunit hmem).mp hu, fun v hv hlt => ?_⟩, ?_⟩
    · have hnot := (h.holds_iff hunit hv).not.mp (Bool.eq_false_iff.mp (hleast v hv hlt))
      rw [not_or, Bool.not_eq_true] at hnot
      exact hnot
    · rw [unitBytes, hfind]

theorem Counts.le (h : Counts unit rest u) (hunit : (unit, power) ∈ units) : u.2 ≤ power :=
  Nat.not_lt.mp fun hlt => (h.least _ hunit hlt).1 rfl

/-- The printed unit counts when no lesser one stands in the rest. -/
theorem Counts.eq_iff (h : Counts unit rest u) (hunit : (unit, power) ∈ units) :
    u.2 = power ↔ ∀ v ∈ units, v.2 < power → Text.holds rest v.1 = false := by
  constructor
  · rintro rfl v hv hlt
    exact (h.least v hv hlt).2
  · intro hrest
    rcases h.stands with hsame | hstands
    · exact power_inj h.mem hunit hsame
    · refine Nat.le_antisymm (h.le hunit) (Nat.not_lt.mp fun hlt => ?_)
      rw [hrest u h.mem hlt] at hstands
      cases hstands

/-! ## Sizes -/

theorem factor_gt_one (base : SizeBase) : 1 < base.factor := by
  cases base <;> decide

/-- A printed size below `2 ^ 53` is read with the least unit of its text, which is its own exactly
when no lesser one stands in the rest. -/
theorem ofText_printed (base : SizeBase) (h : Printed n unit rest text)
    (hunit : (unit, power) ∈ units) (hfits : n * Nat.pow base.factor power < Nat.pow 2 53) :
    (∃ u, Counts unit rest u ∧ u.2 ≤ power ∧
      (ofText base text).toNat = n * Nat.pow base.factor u.2) ∧
    ((ofText base text).toNat = n * Nat.pow base.factor power ↔
      n = 0 ∨ ∀ v ∈ units, v.2 < power → Text.holds rest v.1 = false) := by
  obtain ⟨u, hcounts, hbytes⟩ := h.exists_counts hunit base
  obtain ⟨more, hwords⟩ := h.words_eq
  have hfactor := factor_gt_one base
  have hle : n * Nat.pow base.factor u.2 ≤ n * Nat.pow base.factor power :=
    Nat.mul_le_mul_left n (Nat.pow_le_pow_right (Nat.le_of_lt hfactor) (hcounts.le hunit))
  have hn : n ≤ n * Nat.pow base.factor u.2 :=
    Nat.le_mul_of_pos_right n (Nat.pow_pos (Nat.lt_of_succ_lt hfactor))
  have hsize : (ofText base text).toNat = n * Nat.pow base.factor u.2 := by
    have hlt := Nat.lt_of_le_of_lt hle hfits
    have hword : n * Nat.pow base.factor u.2 < UInt64.size := hlt.trans (by decide)
    rw [ofText, hwords]
    dsimp only
    rw [hbytes, inUnits_toString (Nat.lt_of_le_of_lt hn hlt) (Binary64.fits_of_lt hlt) hword,
      UInt64.toNat_ofNat_of_lt' hword]
  refine ⟨⟨u, hcounts, hcounts.le hunit, hsize⟩, ?_⟩
  rw [hsize, ← hcounts.eq_iff hunit]
  rcases Nat.eq_zero_or_pos n with rfl | hpos
  · simp
  · rw [Nat.mul_left_cancel_iff hpos, or_iff_right (Nat.ne_of_gt hpos)]
    exact Nat.pow_right_inj hfactor

/-- The sectors behind a size name no unit. -/
theorem ofText_printed_sectors :
    (ofText .binary "558 GB [0x45dd2fb0 Sectors]").toNat = 558 * Nat.pow 1024 3 := by
  have htext : toString 558 ++ " " ++ "GB" ++ " [0x45dd2fb0 Sectors]" =
      "558 GB [0x45dd2fb0 Sectors]" := by decide +kernel
  have hrest : ∀ c ∈ " [0x45dd2fb0 Sectors]".toList.head?, Chars.isBlank c = true := by
    rintro _ ⟨⟩
    rfl
  have hprinted : Printed 558 "GB" " [0x45dd2fb0 Sectors]" "558 GB [0x45dd2fb0 Sectors]" :=
    htext ▸ .intro " " (by decide) (List.all_eq_true.mp rfl) hrest
  exact (ofText_printed .binary hprinted (by decide) (by decide)).2.mpr (.inr (by decide +kernel))

/-- The lesser unit counts, though it stands behind the printed one. -/
theorem lesserUnit_counts :
    Printed 600 "GB" " (572325 MB)" "600 GB (572325 MB)" ∧ ("GB", 3) ∈ units ∧
      600 * Nat.pow SizeBase.decimal.factor 3 < Nat.pow 2 53 ∧
      (ofText .decimal "600 GB (572325 MB)").toNat = 600000000 ∧
      600000000 ≠ 600 * Nat.pow SizeBase.decimal.factor 3 := by
  have htext : toString 600 ++ " " ++ "GB" ++ " (572325 MB)" = "600 GB (572325 MB)" := by
    decide +kernel
  have hrest : ∀ c ∈ " (572325 MB)".toList.head?, Chars.isBlank c = true := by
    rintro _ ⟨⟩
    rfl
  refine ⟨htext ▸ .intro " " (by decide) (List.all_eq_true.mp rfl) hrest, by decide, by decide, ?_,
    by decide⟩
  decide +kernel

end StorageInventory.Size
