import StorageInventory.Listing

/-!
# The fields of a block

A record is made of the fields of its block one after the other. What no field sets is what it was
(`foldl_keeps`, `foldlM_keeps`), so that it is set by the last field that does (`foldl_lastField`),
and what only one key sets comes from the values of this key alone (`foldl_valuesOf`).
-/

namespace StorageInventory.Listing
variable (get : β → γ) {fs : List φ}

/-- What each field leaves as it is, a list of fields leaves as it is. -/
theorem foldl_keeps {set : β → φ → β} (h : ∀ v, ∀ f ∈ fs, get (set v f) = get v) (v : β) :
    get (fs.foldl set v) = get v := by
  induction fs generalizing v with
  | nil => rfl
  | cons f fs ih =>
    rw [List.foldl_cons, ih fun v f' hf' => h v f' (List.mem_cons_of_mem f hf')]
    exact h v f List.mem_cons_self

theorem foldlM_keeps {set : β → φ → Except ε β}
    (h : ∀ v v', ∀ f ∈ fs, set v f = .ok v' → get v' = get v) {v v' : β}
    (hrun : fs.foldlM set v = .ok v') : get v' = get v := by
  induction fs generalizing v with
  | nil =>
    cases hrun
    rfl
  | cons f fs ih =>
    rw [List.foldlM_cons] at hrun
    cases hset : set v f with
    | error e =>
      rw [hset] at hrun
      cases hrun
    | ok next =>
      rw [hset] at hrun
      rw [ih (fun v v' f' hf' => h v v' f' (List.mem_cons_of_mem f hf')) hrun]
      exact h v next f List.mem_cons_self hset

/-- What each field leaves aside the fields leave aside. -/
theorem foldlM_hom {set : β → φ → Except ε β} (change : β → β)
    (h : ∀ v, ∀ f ∈ fs, set (change v) f = (set v f).map change) (v : β) :
    fs.foldlM set (change v) = (fs.foldlM set v).map change := by
  induction fs generalizing v with
  | nil => rfl
  | cons f fs ih =>
    rw [List.foldlM_cons, List.foldlM_cons, h v f List.mem_cons_self]
    cases set v f with
    | error e => rfl
    | ok next => exact ih (fun v f' hf' => h v f' (List.mem_cons_of_mem f hf')) next

/-- The last field of a key has the value. -/
def LastField (fs : List (String × String)) (key value : String) : Prop :=
  ∃ front back, fs = front ++ (key, value) :: back ∧ ∀ f ∈ back, f.1 ≠ key

/-- What the last field with a key sets is there when the list has been read. -/
theorem foldl_lastField {fs : List (String × String)} {set : β → String × String → β}
    (h : LastField fs key value) (hset : ∀ v, get (set v (key, value)) = x)
    (hkeep : ∀ v f, f.1 ≠ key → get (set v f) = get v) (v : β) : get (fs.foldl set v) = x := by
  obtain ⟨front, back, rfl, hback⟩ := h
  rw [List.foldl_append, List.foldl_cons, foldl_keeps get fun v f hf => hkeep v f (hback f hf),
    hset]

/-- The values of a key, in the order of the fields. -/
def valuesOf (key : String) (fs : List (String × String)) : List String :=
  (fs.filter (·.1 == key)).map (·.2)

theorem foldl_valuesOf {fs : List (String × String)} {set : β → String × String → β}
    {step : γ → String → γ} (hset : ∀ v value, get (set v (key, value)) = step (get v) value)
    (hkeep : ∀ v f, f.1 ≠ key → get (set v f) = get v) (v : β) :
    get (fs.foldl set v) = (valuesOf key fs).foldl step (get v) := by
  induction fs generalizing v with
  | nil => rfl
  | cons f fs ih =>
    rw [List.foldl_cons, ih]
    obtain ⟨name, value⟩ := f
    by_cases hkey : name = key
    · subst hkey
      rw [hset, valuesOf, valuesOf, List.filter_cons_of_pos (by simp), List.map_cons,
        List.foldl_cons]
    · rw [hkeep v _ hkey, valuesOf, valuesOf, List.filter_cons_of_neg (by simpa using hkey)]

end StorageInventory.Listing
