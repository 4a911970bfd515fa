import StorageInventory.Trace

/-!
# Outcomes

Outcomes that are built from others, and the outcome of a sequence: it succeeds when each member
does, whatever their order, and then it is what they give one after the other (`mapM_toOption`).
-/

namespace StorageInventory.Attempt

theorem ok_bind (a : α) (f : α → Except Failure β) : (Except.ok a).bind f = f a := rfl

theorem bind_eq_ok_iff {x : Except Failure α} {f : α → Except Failure β} :
    x.bind f = .ok b ↔ ∃ a, x = .ok a ∧ f a = .ok b := by
  cases x <;> simp [Except.bind]

theorem map_eq_ok_iff {x : Except Failure α} {f : α → β} :
    x.map f = .ok b ↔ ∃ a, x = .ok a ∧ f a = b := by
  cases x <;> simp [Except.map]

/-! ## Outcomes without their failures -/

theorem toOption_bind (x : Except Failure α) (f : α → Except Failure β) :
    (x.bind f).toOption = x.toOption.bind fun a => (f a).toOption := by
  cases x <;> rfl

theorem toOption_map (x : Except Failure α) (f : α → β) :
    (x.map f).toOption = x.toOption.map f := by
  cases x <;> rfl

theorem toOption_ok (a : α) : (.ok a : Except Failure α).toOption = some a := rfl

theorem toOption_error (e : Failure) : (.error e : Except Failure α).toOption = none := rfl

theorem toOption_eq_some_iff {x : Except Failure α} : x.toOption = some a ↔ x = .ok a := by
  cases x <;> simp [Except.toOption]

/-! ## Sequences -/

/-- The notes and commands of the steps do not matter for what the steps give. -/
theorem outcome_mapM (f : α → Attempt β) (xs : List α) :
    (xs.mapM f).outcome = xs.mapM fun x => (f x).outcome := by
  induction xs with
  | nil => rfl
  | cons x xs ih =>
    simp only [List.mapM_cons, outcome_bind, ih, outcome_pure]
    rfl

/-- Two lists are read one behind the other, and the first failure counts. -/
theorem mapM_append (f : α → Except Failure β) (xs ys : List α) :
    (xs ++ ys).mapM f = (xs.mapM f).bind fun as => (ys.mapM f).map (as ++ ·) := by
  rw [List.mapM_append]
  cases xs.mapM f <;> cases ys.mapM f <;> rfl

/-- All items are read or none is; which of several failures comes first is left open. -/
theorem mapM_toOption (f : α → Except Failure β) (xs : List α) :
    (xs.mapM f).toOption =
      if xs.all fun x => (f x).toOption.isSome then some (xs.filterMap fun x => (f x).toOption)
      else none := by
  induction xs with
  | nil => rfl
  | cons x xs ih =>
    have hcons : (x :: xs).mapM f = (f x).bind fun y => (xs.mapM f).map (y :: ·) := by
      rw [List.mapM_cons]
      cases f x <;> cases xs.mapM f <;> rfl
    rw [hcons, toOption_bind]
    cases hx : f x with
    | error e => simp [hx, toOption_error]
    | ok y =>
      rw [toOption_ok, Option.bind_some, toOption_map, ih]
      by_cases hall : xs.all fun x => (f x).toOption.isSome <;> simp_all [toOption_ok]

end StorageInventory.Attempt
