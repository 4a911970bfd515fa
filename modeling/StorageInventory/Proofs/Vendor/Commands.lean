import StorageInventory.Proofs.Vendor.Outcome

/-!
# What a vendor tool is asked

Binding a controller asks the tool for its listing and for the details of some adapters, each with
commands of its own (`listCommand`, `decodeCommands`). What decoding an adapter gives depends on the
answers to that adapter's commands alone (`decode_congr`), and it gives nothing when one of them
fails (`decode_of_fails`). Main statement: binding picks among what the listed adapters give
(`bind_eq_pick`).
-/

namespace StorageInventory

/-- What the tool of each family answers to its arguments: output, an error or a timeout. -/
abbrev ToolBehaviour := RaidFamily → List String → Except Failure String

/-- A command fails when it ends in an error or a timeout, or when its output is blank. -/
inductive CommandFails : Except Failure String → Prop
  | error : CommandFails (.error e)
  | blank : Text.isBlank output = true → CommandFails (.ok output)

/-- The vendor with a tool that behaves in the given way. -/
def Vendor.behaving (b : ToolBehaviour) (v : Vendor) : Vendor :=
  { v with tool.runner.run := fun _ => b v.family }

namespace Vendor
variable {b b' : ToolBehaviour} {v : Vendor} {c : ListedController} {args : List String}

@[simp] theorem family_behaving (b : ToolBehaviour) (v : Vendor) :
    (v.behaving b).family = v.family := rfl

@[simp] theorem isAvailable_behaving (b : ToolBehaviour) (v : Vendor) :
    (v.behaving b).tool.isAvailable = v.tool.isAvailable := rfl

@[simp] theorem log_behaving (b : ToolBehaviour) (v : Vendor) : (v.behaving b).log = v.log := rfl

/-- What a command gives depends on the behaviour for that command alone. -/
theorem run_congr (h : b v.family args = b' v.family args) :
    ((v.behaving b).tool.run args).outcome = ((v.behaving b').tool.run args).outcome := by
  simp only [Tool.run_outcome, behaving, h]

/-- A tool that does not answer, answers blanks or ends badly gives no output. -/
theorem run_of_fails (h : CommandFails (b v.family args)) :
    ((v.behaving b).tool.run args).outcome.toOption = none := by
  rw [Tool.run_outcome]
  simp only [behaving]
  cases v.tool.program with
  | none => rfl
  | some program =>
    generalize b v.family args = answer at h
    cases h with
    | error => rfl
    | blank hblank => simp [Except.bind, hblank, Except.toOption]

/-! ## The commands of a family -/

/-- The command that asks a family's tool for its controllers. -/
def listCommand : RaidFamily → List String
  | .megaRaid => ["-AdpGetPciInfo", "-aAll", "-NoLog"]
  | .sasIr => ["LIST"]
  | .smartArray => ["controller", "all", "show"]

/-- The commands that ask a family's tool for the details of an adapter. -/
def decodeCommands (family : RaidFamily) (adapterId : String) : List (List String) :=
  match family with
  | .megaRaid => [["-AdpAllInfo", "-a" ++ adapterId, "-NoLog"],
      ["-LDPDInfo", "-a" ++ adapterId, "-NoLog"], ["-PDList", "-a" ++ adapterId, "-NoLog"]]
  | .sasIr => [[adapterId, "DISPLAY"]]
  | .smartArray => [["controller", "slot=" ++ adapterId, "show", "config", "detail"]]

/-- The listing is not asked for again with the details of an adapter. -/
theorem listCommand_notMem (family : RaidFamily) (adapterId : String) :
    listCommand family ∉ decodeCommands family adapterId := by
  cases family <;> simp [listCommand, decodeCommands]

/-- A command asks for the details of one adapter at most. -/
theorem decodeCommands_unique (family : RaidFamily) {i j : String}
    (h : args ∈ decodeCommands family i) (h' : args ∈ decodeCommands family j) : i = j := by
  cases family with
  | megaRaid =>
    simp only [decodeCommands, List.mem_cons, List.not_mem_nil, or_false] at h
    rcases h with rfl | rfl | rfl <;> simpa [decodeCommands, String.append_right_inj] using h'
  | sasIr =>
    obtain rfl := List.mem_singleton.mp h
    simpa [decodeCommands] using h'
  | smartArray =>
    obtain rfl := List.mem_singleton.mp h
    simpa [decodeCommands, String.append_right_inj] using h'

theorem list_congr (h : b v.family (listCommand v.family) = b' v.family (listCommand v.family)) :
    (v.behaving b).list.outcome = (v.behaving b').list.outcome := by
  have hrun := run_congr h
  unfold list
  simp only [family_behaving]
  cases hfamily : v.family with
  | megaRaid | sasIr | smartArray =>
    simp only [hfamily, listCommand] at hrun
    simp only [MegaRaid.list, SasIr.list, SmartArray.list, Attempt.outcome_bind, hrun, log_behaving]

/-! ## Decoding an adapter -/

theorem decode_congr
    (h : ∀ args ∈ decodeCommands v.family c.adapterId, b v.family args = b' v.family args) :
    ((v.behaving b).decode c).outcome = ((v.behaving b').decode c).outcome := by
  have hrun : ∀ args ∈ decodeCommands v.family c.adapterId,
      ((v.behaving b).tool.run args).outcome = ((v.behaving b').tool.run args).outcome :=
    fun args hargs => run_congr (h args hargs)
  unfold decode
  simp only [family_behaving]
  cases hfamily : v.family with
  | megaRaid =>
    simp only [hfamily, decodeCommands, List.forall_mem_cons] at hrun
    simp only [MegaRaid.decode_outcome, hrun, log_behaving]
  | sasIr =>
    simp only [hfamily, decodeCommands, List.forall_mem_cons] at hrun
    simp only [SasIr.decode_outcome, hrun, log_behaving]
  | smartArray =>
    simp only [hfamily, decodeCommands, List.forall_mem_cons] at hrun
    simp only [SmartArray.decode_outcome, hrun]

/-- A decode needs every one of its commands. -/
theorem decode_of_fails (hargs : args ∈ decodeCommands v.family c.adapterId)
    (h : CommandFails (b v.family args)) : ((v.behaving b).decode c).outcome.toOption = none := by
  have hrun := run_of_fails h
  unfold decode
  simp only [family_behaving]
  cases hfamily : v.family with
  | megaRaid =>
    simp only [hfamily, decodeCommands, List.mem_cons, List.not_mem_nil, or_false] at hargs
    rcases hargs with rfl | rfl | rfl <;>
      simp [MegaRaid.decode_outcome, Attempt.toOption_bind, hrun]
  | sasIr =>
    simp only [hfamily, decodeCommands, List.mem_singleton] at hargs
    subst hargs
    simp [SasIr.decode_outcome, Attempt.toOption_bind, hrun]
  | smartArray =>
    simp only [hfamily, decodeCommands, List.mem_singleton] at hargs
    subst hargs
    simp [SmartArray.decode_outcome, Attempt.toOption_bind, hrun]

/-- An inventory is that of the adapter that was asked for. -/
theorem adapterId_of_decode (h : (v.decode c).outcome.toOption = some inventory) :
    inventory.controller.adapterId = c.adapterId := by
  unfold decode at h
  cases hfamily : v.family with
  | megaRaid =>
    simp only [hfamily, MegaRaid.decode_outcome, Attempt.toOption_bind, Attempt.toOption_map,
      Option.bind_eq_some_iff, Option.map_eq_some_iff] at h
    obtain ⟨_, _, _, _, _, _, _, _, _, _, rfl⟩ := h
    rfl
  | sasIr =>
    simp only [hfamily, SasIr.decode_outcome, Attempt.toOption_bind, Option.bind_eq_some_iff] at h
    obtain ⟨_, _, h⟩ := h
    split at h
    · cases h
    · cases h; rfl
  | smartArray =>
    simp only [hfamily, SmartArray.decode_outcome, Attempt.toOption_bind,
      Option.bind_eq_some_iff] at h
    obtain ⟨_, _, h⟩ := h
    split at h
    · cases h
    · cases h; rfl

/-! ## Binding a controller -/

/-- The inventory of a listed adapter, if it reports the address. -/
def readAt (address : PciAddress) (read : ListedController → Option Inventory)
    (c : ListedController) : Option Inventory :=
  (read c).filter (·.controller.pci.any (·.sameSlot address))

/-- The inventory that binding picks, when `read` gives those of the listed adapters. A Smart Array
listing has no addresses, so the inventories are searched; in the others the listing is. -/
def pick (family : RaidFamily) (address : PciAddress) (read : ListedController → Option Inventory)
    (listed : List ListedController) : Option Inventory :=
  match family with
  | .smartArray => listed.findSome? (readAt address read)
  | .megaRaid | .sasIr =>
    (listed.find? (·.isAt address)).bind fun c => (read c).map (completed · c address)

/-- The first controller that is listed at the address is decoded. -/
theorem bindListed_toOption (family : RaidFamily) (list : Attempt (List ListedController))
    (decode : ListedController → Attempt Inventory) (address : PciAddress) :
    (bindListed family list decode address).outcome.toOption =
      list.outcome.toOption.bind fun listed => (listed.find? (·.isAt address)).bind fun c =>
        (decode c).outcome.toOption.map (completed · c address) := by
  unfold bindListed
  rw [Attempt.outcome_bind, Attempt.toOption_bind]
  congr
  funext listed
  cases listed.find? (·.isAt address) with
  | none => rfl
  | some c =>
    simp only [Attempt.outcome_bind, Option.bind_some]
    cases (decode c).outcome <;> rfl

/-- Where a listing has no addresses, the first controller counts whose details can be read and give
the address. -/
theorem findAt_toOption (tool : Tool) (log : Logger) (address : PciAddress)
    (listed : List ListedController) :
    (SmartArray.findAt tool log address listed).outcome.toOption =
      listed.findSome?
        (readAt address fun c => (SmartArray.decode tool log c).outcome.toOption) := by
  induction listed with
  | nil => rfl
  | cons c listed ih =>
    rw [SmartArray.findAt, List.findSome?_cons, readAt, Attempt.outcome_bind, Attempt.outcome_lift,
      Attempt.ok_bind]
    have hrun : (SmartArray.decode tool log c).outcome =
      (SmartArray.decode tool log c).run.value := rfl
    rw [hrun]
    cases (SmartArray.decode tool log c).run.value with
    | error e => simpa [Attempt.toOption_error, Attempt.ok_bind] using ih
    | ok inventory =>
      cases h : inventory.controller.pci.any (·.sameSlot address) with
      | false => simpa [Attempt.toOption_ok, Option.filter_some, h] using ih
      | true => simp [Attempt.toOption_ok, Option.filter_some, h]

/-- What is found at an address depends on the listing and on what can be decoded. -/
theorem bind_eq_pick (v : Vendor) (address : PciAddress) :
    (v.bind address).outcome.toOption =
      v.list.outcome.toOption.bind
        (pick v.family address fun c => (v.decode c).outcome.toOption) := by
  unfold bind
  cases hfamily : v.family with
  | megaRaid | sasIr => exact bindListed_toOption ..
  | smartArray =>
    have hlist : v.list = SmartArray.list v.tool := by simp only [list, hfamily]
    have hdecode : v.decode = SmartArray.decode v.tool v.log := by simp only [decode, hfamily]
    simp only [hlist, hdecode, SmartArray.bind, Attempt.outcome_bind, Attempt.toOption_bind,
      findAt_toOption]
    rfl

end Vendor

end StorageInventory
