import Mathlib.Data.List.Perm.Subperm
import StorageInventory.Listing

/-!
# The first item of each key

What a listing keeps when several of its items have one key, said without the keys seen so far.
-/

namespace StorageInventory.Listing

section
variable [DecidableEq κ] (key : α → κ)

/-- The items whose key no item in front of them has. -/
def firsts : List α → List α
  | [] => []
  | x :: xs => x :: (firsts xs).filter (key · ≠ key x)

theorem firsts_sublist (xs : List α) : (firsts key xs).Sublist xs := by
  induction xs with
  | nil => exact .refl _
  | cons x xs ih => exact (List.filter_sublist.trans ih).cons_cons x

theorem firsts_keys_nodup (xs : List α) : ((firsts key xs).map key).Nodup := by
  induction xs with
  | nil => exact List.nodup_nil
  | cons x xs ih =>
    rw [firsts, List.map_cons, List.nodup_cons]
    exact ⟨by simp, ih.sublist (List.filter_sublist.map key)⟩

/-- Items of distinct keys are all first ones. -/
theorem firsts_of_nodup (h : (xs.map key).Nodup) : firsts key xs = xs := by
  induction xs with
  | nil => rfl
  | cons x xs ih =>
    rw [List.map_cons, List.nodup_cons] at h
    have hne : ∀ y ∈ xs, key y ≠ key x := fun y hy he => h.1 (he ▸ List.mem_map_of_mem hy)
    rw [firsts, ih h.2, List.filter_eq_self.mpr fun y hy => decide_eq_true (hne y hy)]

/-- Every item has the key of a first one. -/
theorem exists_mem_firsts {x : α} {xs : List α} (h : x ∈ xs) :
    ∃ y ∈ firsts key xs, key y = key x := by
  induction xs with
  | nil => cases h
  | cons z xs ih =>
    by_cases hz : key z = key x
    · exact ⟨z, List.mem_cons_self, hz⟩
    · rcases List.mem_cons.mp h with rfl | h
      · exact absurd rfl hz
      · obtain ⟨y, hy, hyx⟩ := ih h
        have hne : key y ≠ key z := fun he => hz (he.symm.trans hyx)
        exact ⟨y, List.mem_cons_of_mem _ (List.mem_filter.mpr ⟨hy, decide_eq_true hne⟩), hyx⟩

/-- The first items of the keys and the others are all items. -/
theorem firsts_append_diff [BEq α] [LawfulBEq α] (xs : List α) :
    (firsts key xs ++ xs.diff (firsts key xs)).Perm xs :=
  List.subperm_append_diff_self_of_count_le fun x _ => (firsts_sublist key xs).count_le x

/-- The first items of the keys are found on the items that the keys are read from. -/
theorem firsts_map (f : α → β) (key : β → κ) (xs : List α) :
    firsts key (xs.map f) = (firsts (key ∘ f) xs).map f := by
  induction xs with
  | nil => rfl
  | cons x xs ih => simp [firsts, ih, List.filter_map, Function.comp_def]

theorem firsts_comp [DecidableEq ν] {f : κ → ν} (hf : ∀ a b, f a = f b → a = b) (xs : List α) :
    firsts (f ∘ key) xs = firsts key xs := by
  induction xs with
  | nil => rfl
  | cons x xs ih =>
    have hne : ∀ y, f (key y) ≠ f (key x) ↔ key y ≠ key x :=
      fun y => not_congr ⟨hf _ _, congrArg f⟩
    simp [firsts, ih, hne]

theorem keepFirst_value (log : Logger) (keyText : κ → String) (seen : List κ) (xs : List α) :
    (keepFirst log key keyText seen xs).value = (firsts key xs).filter (key · ∉ seen) := by
  induction xs generalizing seen with
  | nil => rfl
  | cons x xs ih =>
    by_cases h : key x ∈ seen
    · have hvalue : (keepFirst log key keyText seen (x :: xs)).value =
          (keepFirst log key keyText seen xs).value := by simp [keepFirst, h]
      rw [hvalue, ih, firsts, List.filter_cons_of_neg (by simp [h]), List.filter_filter]
      -- an item with the key of `x` is dropped for its key anyway
      refine List.filter_congr fun y _ => ?_
      by_cases hy : key y = key x <;> simp [hy, h]
    · have hvalue : (keepFirst log key keyText seen (x :: xs)).value =
          x :: (keepFirst log key keyText (key x :: seen) xs).value := by simp [keepFirst, h]
      rw [hvalue, ih, firsts, List.filter_cons_of_pos (by simp [h]), List.filter_filter]
      congr 1
      refine List.filter_congr fun y _ => ?_
      simp [Bool.and_comm]

/-- A listing keeps the first item of each key. -/
@[simp] theorem keepFirst_nil_value (log : Logger) (keyText : κ → String) (xs : List α) :
    (keepFirst log key keyText [] xs).value = firsts key xs := by
  simp [keepFirst_value]

end

end StorageInventory.Listing
