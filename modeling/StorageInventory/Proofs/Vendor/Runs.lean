import StorageInventory.Proofs.Vendor.Commands

/-!
# What a vendor tool is asked in a run

The commands of a trace, in order. Reading output and making notes runs none, so what listing and
decoding run can be read off the calls of the tool. Main statements: listing runs one command
(`list_commands`), and decoding an adapter runs that adapter's commands up to the first that fails
(`decode_commands`).
-/

namespace StorageInventory

namespace Traced

/-- The commands of a trace, each by its arguments. -/
def commands (x : Traced α) : List (List String) := x.trace.filterMap Step.args?

@[simp] theorem commands_pure (a : α) : (pure a : Traced α).commands = [] := rfl

/-- The commands of a part stand in front of those that come of its value. -/
@[simp] theorem commands_bind (x : Traced α) (f : α → Traced β) :
    (x >>= f).commands = x.commands ++ (f x.value).commands := by
  simp only [commands, trace_bind, List.filterMap_append]

@[simp] theorem commands_map (f : α → β) (x : Traced α) : (f <$> x).commands = x.commands := by
  rw [← bind_pure_comp, commands_bind, commands_pure, List.append_nil]

@[simp] theorem commands_note (log : Logger) (level : Level) (text : String) :
    (log.note level text).commands = [] := by
  unfold Logger.note
  cases log.enabled <;> rfl

@[simp] theorem commands_debug (log : Logger) (text : String) : (log.debug text).commands = [] :=
  commands_note ..

/-- Steps that ask nothing ask nothing one after the other. -/
theorem commands_mapM {f : α → Traced β} (h : ∀ x, (f x).commands = []) (xs : List α) :
    (xs.mapM f).commands = [] := by
  induction xs with
  | nil => rfl
  | cons x xs ih => simp [List.mapM_cons, h, ih]

end Traced

namespace Attempt

/-- The commands of an attempt, up to its failure. -/
def commands (x : Attempt α) : List (List String) := Traced.commands x.run

@[simp] theorem commands_pure (a : α) : commands (pure a : Attempt α) = [] := rfl

@[simp] theorem commands_ofOutcome (r : Except Failure α) : commands (ofOutcome r) = [] := rfl

@[simp] theorem commands_lift (x : Traced α) : commands (liftM x : Attempt α) = x.commands := by
  have h : commands (liftM x : Attempt α) = x.commands ++ [] := Traced.commands_bind x _
  rw [h, List.append_nil]

/-- A failed attempt asks nothing further. -/
theorem commands_bind (x : Attempt α) (f : α → Attempt β) :
    commands (x >>= f) = x.commands ++ match x.outcome with
      | .ok a => (f a).commands
      | .error _ => [] := by
  have h : commands (x >>= f) = (trace (x >>= f)).filterMap Step.args? := rfl
  rw [h, trace_bind, List.filterMap_append]
  cases x.outcome <;> rfl

@[simp] theorem commands_map (f : α → β) (x : Attempt α) : commands (f <$> x) = x.commands := by
  rw [← bind_pure_comp, commands_bind]
  cases x.outcome <;> exact List.append_nil _

/-- What runs no command adds none in front. -/
theorem commands_bind_of_quiet {x : Attempt α} {f : α → Attempt β} (hx : x.commands = [])
    (h : ∀ a, (f a).commands <+: cs) : commands (x >>= f) <+: cs := by
  rw [commands_bind, hx, List.nil_append]
  cases x.outcome with
  | ok a => exact h a
  | error e => exact List.nil_prefix

theorem commands_mapM {f : α → Attempt β} (h : ∀ x, (f x).commands = []) (xs : List α) :
    commands (xs.mapM f) = [] := by
  induction xs with
  | nil => rfl
  | cons x xs ih =>
    rw [List.mapM_cons, ← List.prefix_nil]
    exact commands_bind_of_quiet (h x) fun _ => commands_bind_of_quiet ih fun _ => List.prefix_rfl

end Attempt

namespace Tool

/-- A tool that is not installed is not asked. -/
theorem run_commands (tool : Tool) (args : List String) :
    (tool.run args).commands = if tool.isAvailable then [args] else [] := by
  unfold run isAvailable
  cases tool.program with
  | none => rfl
  | some program =>
    have hattempt : (tool.runner.attempt program args).commands = [args] := by
      simp only [Runner.attempt, Attempt.commands_bind, Attempt.commands_lift,
        Attempt.outcome_lift, Traced.commands_debug, Attempt.commands_ofOutcome]
      rfl
    rw [Option.isSome_some, if_pos rfl, Attempt.commands_bind, hattempt]
    cases (tool.runner.attempt program args).outcome with
    | error e => rfl
    | ok output => dsimp only; split <;> rfl

/-- What is made of an output asks nothing, so the command for it is the only one. -/
theorem run_bind_of_quiet (tool : Tool) (args : List String) {f : String → Attempt α}
    (h : ∀ output, (f output).commands = []) :
    (tool.run args >>= f).commands = (tool.run args).commands := by
  rw [Attempt.commands_bind]
  cases (tool.run args).outcome with
  | ok output => simp only [h, List.append_nil]
  | error e => exact List.append_nil _

/-- A command that fails is the last, so what is asked is the front of a list of commands. -/
theorem run_bind_commands (tool : Tool) (args : List String) {f : String → Attempt α}
    (h : ∀ output, (f output).commands <+: cs) :
    (tool.run args >>= f).commands <+: args :: cs := by
  rw [Attempt.commands_bind, run_commands, run_outcome, isAvailable]
  cases tool.program with
  | none => exact List.nil_prefix
  | some program =>
    rw [Option.isSome_some, if_pos rfl, List.singleton_append, List.cons_prefix_cons]
    refine ⟨rfl, ?_⟩
    split
    · exact h _
    · exact List.nil_prefix

end Tool

/-- Dropping items with a known key leaves notes only. -/
theorem Listing.keepFirst_commands [DecidableEq κ] (log : Logger) (key : α → κ)
    (keyText : κ → String) (seen : List κ) (xs : List α) :
    (keepFirst log key keyText seen xs).commands = [] := by
  induction xs generalizing seen with
  | nil => rfl
  | cons x xs ih =>
    unfold keepFirst
    split <;> simp [ih]

/-! ## Reading output -/

namespace MegaRaid

theorem controllers_commands (log : Logger) (lines : List String) :
    (controllers log lines).commands = [] := by
  simp only [controllers, Traced.commands_bind, Traced.commands_pure, List.append_nil]
  refine Traced.commands_mapM (fun block => ?_) _
  unfold controller?
  split <;> simp

theorem countedDrives_commands (log : Logger) (fields : List (String × String)) :
    (countedDrives log fields).commands = [] := by
  rw [countedDrives, ← List.prefix_nil]
  exact Attempt.commands_bind_of_quiet (by simp) fun _ =>
    Attempt.commands_bind_of_quiet (by simp) fun _ => by simp

theorem volumes_commands (log : Logger) (fields : List (String × String)) :
    (volumes log fields).commands = [] := by
  have hvolume : ∀ block, (volume? log block).commands = [] := by
    intro block
    rw [← List.prefix_nil]
    unfold volume?
    split
    · exact Attempt.commands_bind_of_quiet (by simp) fun _ => by simp
    · exact Attempt.commands_bind_of_quiet (countedDrives_commands ..) fun _ =>
        Attempt.commands_bind_of_quiet (by simp) fun _ => by simp
  rw [volumes, ← List.prefix_nil]
  exact Attempt.commands_bind_of_quiet (Attempt.commands_mapM hvolume _) fun _ =>
    Attempt.commands_bind_of_quiet (by simp) fun _ => by simp

/-- A decode asks about the adapter it is for, and may stop early. -/
theorem decode_commands (tool : Tool) (log : Logger) (c : ListedController) :
    (decode tool log c).commands <+: Vendor.decodeCommands .megaRaid c.adapterId := by
  refine tool.run_bind_commands _ fun info => tool.run_bind_commands _ fun volumeText => ?_
  refine Attempt.commands_bind_of_quiet (volumes_commands ..) fun found => ?_
  refine Attempt.commands_bind_of_quiet (by simp [Listing.keepFirst_commands]) fun kept => ?_
  refine tool.run_bind_commands _ fun driveText => ?_
  refine Attempt.commands_bind_of_quiet (countedDrives_commands ..) fun all => ?_
  exact Attempt.commands_bind_of_quiet (by simp) fun _ => List.prefix_rfl

end MegaRaid

namespace SasIr

theorem volumes_commands (log : Logger) (lines : List String) :
    (volumes log lines).commands = [] := by
  have hvolume : ∀ block, (volume? log block).commands = [] := by
    intro block
    unfold volume?
    dsimp only
    split <;> simp
  unfold volumes
  split
  · simp
  · simp [Traced.commands_mapM hvolume]

theorem gather_commands (log : Logger) (label : String) (places : List String)
    (pool : List PhysicalDrive) : (gather log label places pool).commands = [] := by
  induction places generalizing pool with
  | nil => rfl
  | cons place places ih =>
    unfold gather
    split <;> simp [ih]

theorem assemble_commands (log : Logger) (named : List NamedVolume) (pool : List PhysicalDrive) :
    (assemble log named pool).commands = [] := by
  induction named generalizing pool with
  | nil => rfl
  | cons v named ih => simp [assemble, gather_commands, ih]

theorem decode_commands (tool : Tool) (log : Logger) (c : ListedController) :
    (decode tool log c).commands <+: Vendor.decodeCommands .sasIr c.adapterId := by
  refine tool.run_bind_commands _ fun output => ?_
  refine Attempt.commands_bind_of_quiet (by simp) fun _ => ?_
  refine Attempt.commands_bind_of_quiet (by simp [volumes_commands]) fun named => ?_
  refine Attempt.commands_bind_of_quiet (by simp [Listing.keepFirst_commands]) fun kept => ?_
  split
  · exact List.nil_prefix
  refine Attempt.commands_bind_of_quiet (by simp [Listing.keepFirst_commands]) fun pool => ?_
  refine Attempt.commands_bind_of_quiet (by simp [assemble_commands]) fun found => ?_
  exact Attempt.commands_bind_of_quiet (by simp) fun _ => List.prefix_rfl

end SasIr

namespace SmartArray

/-- Reading a slot asks for its details and for nothing else. -/
theorem decode_asks (tool : Tool) (log : Logger) (c : ListedController) :
    (decode tool log c).commands =
      (tool.run ["controller", "slot=" ++ c.adapterId, "show", "config", "detail"]).commands := by
  refine tool.run_bind_of_quiet _ fun output => List.prefix_nil.mp ?_
  refine Attempt.commands_bind_of_quiet (by simp) fun _ => ?_
  split
  split
  · exact List.nil_prefix
  refine Attempt.commands_bind_of_quiet (by simp [Listing.keepFirst_commands]) fun kept => ?_
  exact Attempt.commands_bind_of_quiet (by simp) fun _ => List.prefix_rfl

theorem decode_commands (tool : Tool) (log : Logger) (c : ListedController) :
    (decode tool log c).commands <+: Vendor.decodeCommands .smartArray c.adapterId := by
  rw [decode_asks, Tool.run_commands]
  split
  · exact List.prefix_rfl
  · exact List.nil_prefix

end SmartArray

namespace Vendor

/-- A listing that succeeds has asked for the listing alone. -/
theorem list_commands {v : Vendor} (h : v.list.outcome = .ok listed) :
    v.list.commands = [listCommand v.family] := by
  -- A missing tool runs no command, but it lists nothing either.
  have hrun : ∀ args, (∃ output, (v.tool.run args).outcome = .ok output) →
      (v.tool.run args).commands = [args] := by
    rintro args ⟨output, hrun⟩
    rw [Tool.run_commands, if_pos]
    rw [Tool.run_outcome] at hrun
    unfold Tool.isAvailable
    cases hprogram : v.tool.program with
    | none => simp [hprogram] at hrun
    | some program => rfl
  unfold list at h ⊢
  cases hfamily : v.family with
  | megaRaid =>
    simp only [hfamily, MegaRaid.list, Attempt.outcome_bind, Attempt.bind_eq_ok_iff] at h ⊢
    obtain ⟨output, houtput, _⟩ := h
    simp [Attempt.commands_bind, houtput, hrun _ ⟨output, houtput⟩, MegaRaid.controllers_commands,
      listCommand]
  | sasIr =>
    simp only [hfamily, SasIr.list, Attempt.outcome_bind, Attempt.bind_eq_ok_iff] at h ⊢
    obtain ⟨output, houtput, _⟩ := h
    simp [hrun _ ⟨output, houtput⟩, listCommand]
  | smartArray =>
    simp only [hfamily, SmartArray.list, Attempt.outcome_bind, Attempt.bind_eq_ok_iff] at h ⊢
    obtain ⟨output, houtput, _⟩ := h
    simp [hrun _ ⟨output, houtput⟩, listCommand]

/-- Decoding asks for the details of one adapter, in order and up to the first command that
fails. -/
theorem decode_commands (v : Vendor) (c : ListedController) :
    (v.decode c).commands <+: decodeCommands v.family c.adapterId := by
  unfold decode
  cases v.family with
  | megaRaid => exact MegaRaid.decode_commands ..
  | sasIr => exact SasIr.decode_commands ..
  | smartArray => exact SmartArray.decode_commands ..

end Vendor

end StorageInventory
