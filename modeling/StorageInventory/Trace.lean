import StorageInventory.Failure

/-!
# Traces

A computation of an inventory run gives a value together with its trace: the notes that it makes
and the commands that it runs, in order. `Traced` cannot fail; `Attempt` can, and its trace goes up
to the failure. Main statements: value, outcome and trace of a sequence are those of its parts.
-/

namespace StorageInventory

/-- How much a note matters. -/
inductive Level
  | debug
  | info
  | warn
  deriving DecidableEq, Repr

namespace Level

/-- The name of a level. -/
def name : Level → String
  | debug => "DEBUG"
  | info => "INFO"
  | warn => "WARN"

end Level

/-- One step of a trace. -/
inductive Step
  | note (level : Level) (component : String) (text : String)
  | command (program : String) (args : List String)
  deriving DecidableEq, Repr

namespace Step

/-- The note in one line, for a step that is one. -/
def noteText? : Step → Option String
  | note level component text => some s!"{level.name} {component}: {text}"
  | command _ _ => none

/-- The arguments of a command, for a step that is one. -/
def args? : Step → Option (List String)
  | note _ _ _ => none
  | command _ args => some args

end Step

/-- A value and the trace of its computation. -/
structure Traced (α : Type) where
  value : α
  trace : List Step := []

namespace Traced

instance : Monad Traced where
  pure a := ⟨a, []⟩
  bind x f := ⟨(f x.value).value, x.trace ++ (f x.value).trace⟩

@[simp] theorem value_pure (a : α) : (pure a : Traced α).value = a := rfl

@[simp] theorem trace_pure (a : α) : (pure a : Traced α).trace = [] := rfl

@[simp] theorem value_bind (x : Traced α) (f : α → Traced β) :
    (x >>= f).value = (f x.value).value := rfl

@[simp] theorem trace_bind (x : Traced α) (f : α → Traced β) :
    (x >>= f).trace = x.trace ++ (f x.value).trace := rfl

instance : LawfulMonad Traced := LawfulMonad.mk' Traced
  (fun x => by cases x; simp [Functor.map])
  (fun _ _ => by simp [bind, pure])
  (fun _ _ _ => by simp [bind, List.append_assoc])

@[simp] theorem value_map (f : α → β) (x : Traced α) : (f <$> x).value = f x.value := rfl

/-- The values of a sequence are those of its members. -/
theorem value_mapM (f : α → Traced β) (xs : List α) :
    (xs.mapM f).value = xs.map fun x => (f x).value := by
  induction xs with
  | nil => rfl
  | cons x xs ih => simp [List.mapM_cons, ih]

end Traced

/-- A computation that may fail. -/
abbrev Attempt (α : Type) := ExceptT Failure Traced α

namespace Attempt

/-- The value of an attempt, or its failure. -/
def outcome (x : Attempt α) : Except Failure α := Traced.value x.run

/-- The steps of an attempt. -/
def trace (x : Attempt α) : List Step := Traced.trace x.run

/-- The attempt that only gives an outcome. -/
def ofOutcome (r : Except Failure α) : Attempt α := ExceptT.mk (pure r)

@[simp] theorem outcome_pure (a : α) : outcome (pure a : Attempt α) = .ok a := rfl

@[simp] theorem outcome_throw (e : Failure) : outcome (throw e : Attempt α) = .error e := rfl

@[simp] theorem outcome_ofOutcome (r : Except Failure α) : outcome (ofOutcome r) = r := rfl

@[simp] theorem outcome_lift (x : Traced α) : outcome (liftM x : Attempt α) = .ok x.value := rfl

@[simp] theorem outcome_bind (x : Attempt α) (f : α → Attempt β) :
    outcome (x >>= f) = x.outcome.bind fun a => (f a).outcome := by
  simp only [outcome, ExceptT.run_bind, Traced.value_bind]
  cases Traced.value x.run <;> rfl

@[simp] theorem outcome_map (f : α → β) (x : Attempt α) :
    outcome (f <$> x) = x.outcome.map f := by
  rw [← bind_pure_comp, outcome_bind]
  cases x.outcome <;> rfl

theorem outcome_mapM_congr {f g : α → Attempt β} {xs : List α}
    (h : ∀ x ∈ xs, (f x).outcome = (g x).outcome) :
    outcome (xs.mapM f) = outcome (xs.mapM g) := by
  induction xs with
  | nil => rfl
  | cons x xs ih =>
    rw [List.forall_mem_cons] at h
    simp only [List.mapM_cons, outcome_bind, h.1, ih h.2]

/-- The steps of a sequence: those of its second part come only when the first succeeds. -/
theorem trace_bind (x : Attempt α) (f : α → Attempt β) :
    trace (x >>= f) = x.trace ++ match x.outcome with
      | .ok a => (f a).trace
      | .error _ => [] := by
  simp only [outcome, trace, ExceptT.run_bind, Traced.trace_bind]
  cases Traced.value x.run <;> rfl

end Attempt

end StorageInventory
