/-!
# Pools

A pool is a list from which items are taken one at a time, the first one that fits. Main statements:
what is taken and what remains are together the pool, and an item is taken by its key when keys are
distinct.
-/

namespace StorageInventory.Pool

/-- Takes the first item that satisfies `p`; what remains keeps its order. -/
def take? (p : α → Bool) : List α → Option (α × List α)
  | [] => none
  | x :: xs =>
    if p x then some (x, xs) else (take? p xs).map fun (found, rest) => (found, x :: rest)

theorem take?_eq_none_iff {p : α → Bool} {xs : List α} :
    take? p xs = none ↔ ∀ x ∈ xs, p x = false := by
  induction xs with
  | nil => simp [take?]
  | cons x xs ih => by_cases h : p x <;> simp [take?, h, ih]

/-- The item taken fits, no item in front of it does, and the rest is the list without it. -/
theorem take?_eq_some_iff {p : α → Bool} {xs : List α} {y : α} {rest : List α} :
    take? p xs = some (y, rest) ↔
      p y = true ∧ ∃ front back,
        xs = front ++ y :: back ∧ rest = front ++ back ∧ ∀ x ∈ front, p x = false := by
  induction xs generalizing rest with
  | nil => simp [take?]
  | cons x xs ih =>
    by_cases h : p x
    · simp only [take?, h, if_true, Option.some.injEq, Prod.mk.injEq]
      constructor
      · rintro ⟨rfl, rfl⟩
        exact ⟨h, [], xs, rfl, rfl, by simp⟩
      · rintro ⟨hy, front, back, hxs, rfl, hfront⟩
        cases front with
        | nil => simp_all
        | cons z front => simp_all
    · simp only [take?, h, Bool.false_eq_true, if_false, Option.map_eq_some_iff, Prod.exists,
        Prod.mk.injEq]
      constructor
      · rintro ⟨z, tail, htail, rfl, rfl⟩
        obtain ⟨hz, front, back, rfl, rfl, hfront⟩ := ih.1 htail
        exact ⟨hz, x :: front, back, rfl, rfl, by simp_all⟩
      · rintro ⟨hy, front, back, hxs, rfl, hfront⟩
        cases front with
        | nil => simp_all
        | cons z front =>
          obtain ⟨rfl, rfl⟩ : x = z ∧ xs = front ++ y :: back := by simpa using hxs
          exact ⟨y, front ++ back,
            ih.2 ⟨hy, front, back, rfl, rfl, fun w hw => hfront w (by simp [hw])⟩, rfl, rfl⟩

/-- The item taken is the first that fits. -/
theorem map_take? (p : α → Bool) (xs : List α) : (take? p xs).map (·.1) = xs.find? p := by
  induction xs with
  | nil => rfl
  | cons x xs ih =>
    by_cases h : p x
    · simp [take?, h]
    · simp [take?, h, ← ih, Function.comp_def]

/-- Taking an item loses nothing and adds nothing. -/
theorem perm_of_take? {p : α → Bool} {xs : List α} {y : α} {rest : List α}
    (h : take? p xs = some (y, rest)) : (y :: rest).Perm xs := by
  obtain ⟨_, front, back, rfl, rfl, _⟩ := take?_eq_some_iff.1 h
  exact List.perm_middle.symm

/-- Of items with distinct keys, the one of a key is found. -/
theorem find?_key [DecidableEq κ] {key : α → κ} {xs : List α} (hnd : (xs.map key).Nodup)
    (h : x ∈ xs) : xs.find? (key · == key x) = some x := by
  induction xs with
  | nil => cases h
  | cons y xs ih =>
    rw [List.map_cons, List.nodup_cons] at hnd
    rcases List.mem_cons.mp h with rfl | h
    · simp
    · have hne : key y ≠ key x := fun he => hnd.1 (he ▸ List.mem_map_of_mem h)
      rw [List.find?_cons_of_neg (by simpa using hne), ih hnd.2 h]

/-- Of items with distinct keys, taking the one of a key leaves those of the other keys. -/
theorem take?_key [DecidableEq κ] {key : α → κ} {xs : List α} (hnd : (xs.map key).Nodup) (k : κ) :
    take? (key · == k) xs =
      (xs.find? (key · == k)).map fun x => (x, xs.filter (key · ≠ k)) := by
  induction xs with
  | nil => rfl
  | cons x xs ih =>
    rw [List.map_cons, List.nodup_cons] at hnd
    by_cases h : key x = k
    · subst h
      have hxs : xs.filter (key · ≠ key x) = xs := by
        rw [List.filter_eq_self]
        exact fun y hy => decide_eq_true fun he => hnd.1 (he ▸ List.mem_map_of_mem hy)
      rw [List.filter_cons_of_neg (by simp), hxs]
      simp [take?]
    · rw [take?, if_neg (by simpa using h), ih hnd.2, List.find?_cons_of_neg (by simpa using h),
        List.filter_cons_of_pos (by simpa using h), Option.map_map]
      rfl

end StorageInventory.Pool
