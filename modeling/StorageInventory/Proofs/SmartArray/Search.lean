import StorageInventory.Proofs.Vendor.Binding

/-!
# The search for a Smart Array controller

A Smart Array listing has slots and no addresses, so the details of one slot after the other are
asked for. Main statements: what one slot does to a search (`findAt_cons_of_reports`,
`findAt_cons_of_passed`), and that binding asks for the slots up to the first one that reports the
address, gives the inventory of that one, and is not disturbed by the others (`bind_searches`).
-/

namespace StorageInventory.SmartArray
variable {tool : Tool} {log : Logger} {address : PciAddress} {c : ListedController}
  {inventory : Inventory}

/-- The command that asks for the slots. -/
def slotsCommand : List String := ["controller", "all", "show"]

/-- The command that asks for the details of a slot. -/
def detailCommand (c : ListedController) : List String :=
  ["controller", "slot=" ++ c.adapterId, "show", "config", "detail"]

/-- The details of a slot can be read, and they report the address. -/
structure Reports (tool : Tool) (log : Logger) (address : PciAddress) (c : ListedController)
    (inventory : Inventory) : Prop where
  decoded : (decode tool log c).outcome = .ok inventory
  hasSlot : Vendor.HasSlot inventory.controller.pci address

/-- A slot that does not report the address, whether its details can be read or not. -/
def Passed (tool : Tool) (log : Logger) (address : PciAddress) (c : ListedController) : Prop :=
  ∀ inventory, ¬Reports tool log address c inventory

/-- Whether a slot is passed is found by reading it. -/
theorem passed_iff : Passed tool log address c ↔
    ((decode tool log c).outcome.toOption.any
      (·.controller.pci.any (·.sameSlot address))) = false := by
  constructor
  · intro h
    cases hdecode : (decode tool log c).outcome with
    | error failure => rfl
    | ok inventory =>
      exact eq_false_of_ne_true fun hany => h inventory ⟨hdecode, Vendor.any_sameSlot_iff.mp hany⟩
  · intro h inventory hreports
    have hany := Vendor.any_sameSlot_iff.mpr hreports.hasSlot
    rw [hreports.decoded] at h
    exact Bool.false_ne_true (h.symm.trans hany)

instance : Decidable (Passed tool log address c) := decidable_of_iff _ passed_iff.symm

/-! ## One slot -/

/-- The details of a slot cannot be read when the command fails, when its output is blank, and when
the output has no controller in it. -/
theorem decode_fails_iff (hprogram : tool.program = some path) :
    (∃ failure, (decode tool log c).outcome = .error failure) ↔
      CommandFails (tool.runner.run path (detailCommand c)) ∨
        ∃ output, tool.runner.run path (detailCommand c) = .ok output ∧
          (parts (Text.lines output)).1 = [] := by
  have hcommand :
      ["controller", "slot=" ++ c.adapterId, "show", "config", "detail"] = detailCommand c := rfl
  rw [decode_outcome, Tool.run_outcome, hprogram, hcommand]
  dsimp only
  cases tool.runner.run path (detailCommand c) with
  | error failure => exact ⟨fun _ => .inl .error, fun _ => ⟨failure, rfl⟩⟩
  | ok output =>
    rw [Attempt.ok_bind]
    cases hblank : Text.isBlank output with
    | true => exact ⟨fun _ => .inl (.blank hblank), fun _ => ⟨_, rfl⟩⟩
    | false =>
      have hfails : ¬CommandFails (.ok output) := fun h => by cases h; simp_all
      cases hown : (parts (Text.lines output)).1 <;> simp [Attempt.ok_bind, hfails, hown]

theorem findAt_cons (tool : Tool) (log : Logger) (address : PciAddress) (c : ListedController)
    (cs : List ListedController) :
    (findAt tool log address (c :: cs)).outcome =
        (match (decode tool log c).outcome with
        | .ok inventory =>
          if inventory.controller.pci.any (·.sameSlot address) then .ok inventory
          else (findAt tool log address cs).outcome
        | .error _ => (findAt tool log address cs).outcome) ∧
      (findAt tool log address (c :: cs)).commands = (decode tool log c).commands ++
        (match (decode tool log c).outcome with
        | .ok inventory =>
          if inventory.controller.pci.any (·.sameSlot address) then []
          else (findAt tool log address cs).commands
        | .error _ => (findAt tool log address cs).commands) := by
  have houtcome : (decode tool log c).outcome = (decode tool log c).run.value := rfl
  have hcommands : (decode tool log c).commands = (decode tool log c).run.commands := rfl
  rw [findAt, Attempt.outcome_bind, Attempt.commands_bind, Attempt.outcome_lift,
    Attempt.commands_lift, Attempt.ok_bind, houtcome, hcommands]
  cases (decode tool log c).run.value with
  | error failure => simp [Attempt.commands_bind, Attempt.ok_bind]
  | ok inventory => cases h : inventory.controller.pci.any (·.sameSlot address) <;> simp [h]

/-- The search ends at a slot that reports the address. -/
theorem findAt_cons_of_reports (h : Reports tool log address c inventory)
    (cs : List ListedController) :
    (findAt tool log address (c :: cs)).outcome = .ok inventory ∧
      (findAt tool log address (c :: cs)).commands = (decode tool log c).commands := by
  have hany := Vendor.any_sameSlot_iff.mpr h.hasSlot
  simpa [h.decoded, hany] using findAt_cons tool log address c cs

/-- The search goes on behind a slot that does not, and only its command is left of that slot. -/
theorem findAt_cons_of_passed (h : Passed tool log address c) (cs : List ListedController) :
    (findAt tool log address (c :: cs)).outcome = (findAt tool log address cs).outcome ∧
      (findAt tool log address (c :: cs)).commands =
        (decode tool log c).commands ++ (findAt tool log address cs).commands := by
  obtain ⟨houtcome, hcommands⟩ := findAt_cons tool log address c cs
  rw [houtcome, hcommands]
  have hany := passed_iff.mp h
  cases hdecode : (decode tool log c).outcome with
  | error failure => exact ⟨rfl, rfl⟩
  | ok inventory =>
    rw [hdecode, Attempt.toOption_ok, Option.any_some] at hany
    simp [hany]

/-! ## All slots -/

/-- What stands in front of a search, when none of it reports the address, is asked and passed. -/
theorem findAt_append (cs : List ListedController)
    (h : ∀ c ∈ front, Passed tool log address c) :
    (findAt tool log address (front ++ cs)).outcome = (findAt tool log address cs).outcome ∧
      (findAt tool log address (front ++ cs)).commands =
        front.flatMap (fun c => (decode tool log c).commands) ++
          (findAt tool log address cs).commands := by
  induction front with
  | nil => exact ⟨rfl, rfl⟩
  | cons c front ih =>
    rw [List.forall_mem_cons] at h
    obtain ⟨houtcome, hcommands⟩ := findAt_cons_of_passed h.1 (front ++ cs)
    obtain ⟨hrestOutcome, hrestCommands⟩ := ih h.2
    rw [List.cons_append, houtcome, hcommands, hrestOutcome, hrestCommands, List.flatMap_cons,
      List.append_assoc]
    exact ⟨rfl, rfl⟩

/-- A slot that does not report the address may be left out of a search. -/
theorem findAt_without (h : Passed tool log address c) (front back : List ListedController) :
    (findAt tool log address (front ++ c :: back)).outcome =
      (findAt tool log address (front ++ back)).outcome := by
  induction front with
  | nil => exact (findAt_cons_of_passed h back).1
  | cons d front ih =>
    rw [List.cons_append, List.cons_append, (findAt_cons ..).1, (findAt_cons ..).1, ih]

theorem decode_commands_of_available (h : tool.isAvailable = true) (log : Logger)
    (cs : List ListedController) :
    cs.flatMap (fun c => (decode tool log c).commands) = cs.map detailCommand := by
  rw [List.map_eq_flatMap]
  refine congrArg (List.flatMap · cs) (funext fun c => ?_)
  rw [decode_asks, Tool.run_commands, if_pos h]
  rfl

/-! ## Binding -/

theorem list_asks (tool : Tool) :
    (list tool).commands = if tool.isAvailable then [slotsCommand] else [] := by
  rw [list, tool.run_bind_of_quiet _ fun _ => Attempt.commands_pure _, Tool.run_commands]
  rfl

theorem isAvailable_of_list (h : (list tool).outcome = .ok listed) : tool.isAvailable = true := by
  rw [list, Attempt.outcome_bind, Attempt.bind_eq_ok_iff] at h
  obtain ⟨output, hrun, _⟩ := h
  rw [Tool.run_outcome] at hrun
  unfold Tool.isAvailable
  cases hprogram : tool.program with
  | none => simp [hprogram] at hrun
  | some path => rfl

/-- Binding asks for the slots and then for the details of one after the other, up to and with the
first that reports the address, and gives the inventory of that slot. When none does, all were asked
once and no controller is found; when the slots cannot be listed, nothing else is asked. Slots whose
details cannot be read or report another address change nothing about the result. -/
theorem bind_searches (tool : Tool) (log : Logger) (address : PciAddress) :
    (∀ failure, (list tool).outcome = .error failure →
      (bind tool log address).outcome = .error failure ∧
        (bind tool log address).commands = if tool.isAvailable then [slotsCommand] else []) ∧
    (∀ listed, (list tool).outcome = .ok listed →
      (∀ front c back inventory, listed = front ++ c :: back →
        (∀ d ∈ front, Passed tool log address d) → Reports tool log address c inventory →
        (bind tool log address).outcome = .ok inventory ∧
          (bind tool log address).commands = slotsCommand :: (front ++ [c]).map detailCommand) ∧
      ((∀ d ∈ listed, Passed tool log address d) →
        (bind tool log address).outcome = .error (.controllerNotFound .smartArray address) ∧
          (bind tool log address).commands = slotsCommand :: listed.map detailCommand) ∧
      (bind tool log address).outcome = (findAt tool log address listed).outcome) ∧
    (∀ front c back, Passed tool log address c →
      (findAt tool log address (front ++ c :: back)).outcome =
        (findAt tool log address (front ++ back)).outcome) ∧
    (∀ c path, tool.program = some path →
      ((∃ failure, (decode tool log c).outcome = .error failure) ↔
        CommandFails (tool.runner.run path (detailCommand c)) ∨
          ∃ output, tool.runner.run path (detailCommand c) = .ok output ∧
            (parts (Text.lines output)).1 = [])) := by
  refine ⟨fun failure hfailure => ?_, fun listed hlisted => ?_,
    fun front c back hc => findAt_without hc front back, fun c path => decode_fails_iff⟩
  · rw [bind, Attempt.outcome_bind, Attempt.commands_bind, list_asks, hfailure]
    exact ⟨rfl, List.append_nil _⟩
  · have havailable := isAvailable_of_list hlisted
    have hbind : (bind tool log address).outcome = (findAt tool log address listed).outcome ∧
        (bind tool log address).commands =
          slotsCommand :: (findAt tool log address listed).commands := by
      rw [bind, Attempt.outcome_bind, Attempt.commands_bind, list_asks, hlisted, if_pos havailable]
      exact ⟨rfl, rfl⟩
    refine ⟨fun front c back inventory heq hfront hc => ?_, fun hall => ?_, hbind.1⟩
    · obtain ⟨houtcome, hcommands⟩ := findAt_append (c :: back) hfront
      obtain ⟨hlast, hasked⟩ := findAt_cons_of_reports hc back
      have hown := decode_commands_of_available havailable log (front ++ [c])
      rw [hbind.1, hbind.2, heq, houtcome, hcommands, hlast, hasked, ← hown, List.flatMap_append,
        List.flatMap_singleton]
      exact ⟨rfl, rfl⟩
    · obtain ⟨houtcome, hcommands⟩ := findAt_append [] hall
      rw [List.append_nil] at houtcome hcommands
      rw [hbind.1, hbind.2, houtcome, hcommands, decode_commands_of_available havailable]
      exact ⟨rfl, congrArg _ (List.append_nil _)⟩

/-- The details of a slot with a controller on a bus. -/
def busDetails (bus : String) : String :=
  "Smart Array P440 in Slot 3\nPCI Address (Domain:Bus:Device.Function): 0000:" ++ bus ++ ":00.0"

/-- A tool that lists six slots. The first cannot be asked, the second says nothing and the third
speaks of no controller; the fourth is on bus 3, the others are on bus 4. -/
def sixSlotTool : Tool where
  family := .smartArray
  program := some "/usr/sbin/hpssacli"
  runner := {
    run := fun _ args => match args with
      | ["controller", "all", "show"] => .ok ("P440 in Slot 0\nP440 in Slot 1\nP440 in Slot 2\n" ++
          "P440 in Slot 3\nP440 in Slot 4\nP440 in Slot 5")
      | [_, "slot=0", _, _, _] => .error (.commandTimeout "hpssacli" (.ofSeconds 30))
      | [_, "slot=1", _, _, _] => .ok " \n"
      | [_, "slot=2", _, _, _] => .ok "Array: A"
      | [_, "slot=3", _, _, _] => .ok (busDetails "03")
      | _ => .ok (busDetails "04") }

def listedSlot (slot : String) : ListedController := { adapterId := slot, productName := "P440" }

def fourthSlot : Inventory where
  controller := {
    adapterId := "4", pci := some { bus := 4 }, productName := "P440", battery := some false }

/-- The fifth slot is bound, the sixth is not asked any more, and a bus that no slot is on is not
found after all six were asked. -/
theorem bind_searches_sixSlots :
    (list sixSlotTool).outcome = .ok (["0", "1", "2", "3", "4", "5"].map listedSlot) ∧
      (bind sixSlotTool .fallback { bus := 4 }).outcome = .ok fourthSlot ∧
      (bind sixSlotTool .fallback { bus := 4 }).commands =
        slotsCommand :: ["0", "1", "2", "3", "4"].map (detailCommand ∘ listedSlot) ∧
      (bind sixSlotTool .fallback { bus := 5 }).outcome =
        .error (.controllerNotFound .smartArray { bus := 5 }) ∧
      (bind sixSlotTool .fallback { bus := 5 }).commands =
        slotsCommand :: ["0", "1", "2", "3", "4", "5"].map (detailCommand ∘ listedSlot) := by
  have hlisted :
      (list sixSlotTool).outcome = .ok (["0", "1", "2", "3", "4", "5"].map listedSlot) := by
    decide +kernel
  have hreports : Reports sixSlotTool .fallback { bus := 4 } (listedSlot "4") fourthSlot :=
    ⟨by decide +kernel, { bus := 4 }, rfl, rfl, rfl, rfl⟩
  obtain ⟨-, hsearch, -⟩ := bind_searches sixSlotTool .fallback { bus := 4 }
  obtain ⟨-, hother, -⟩ := bind_searches sixSlotTool .fallback { bus := 5 }
  obtain ⟨hfound, -⟩ := hsearch _ hlisted
  obtain ⟨-, hnone, -⟩ := hother _ hlisted
  obtain ⟨houtcome, hcommands⟩ :=
    hfound (["0", "1", "2", "3"].map listedSlot) (listedSlot "4") [listedSlot "5"] fourthSlot rfl
      (by decide +kernel) hreports
  obtain ⟨hmissing, hasked⟩ := hnone (by decide +kernel)
  exact ⟨hlisted, houtcome, hcommands, hmissing, hasked⟩

end StorageInventory.SmartArray
