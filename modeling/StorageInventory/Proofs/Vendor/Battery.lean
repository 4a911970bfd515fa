import StorageInventory.Proofs.Listing.Fields
import StorageInventory.Proofs.Number.Digits
import StorageInventory.Proofs.SmartArray.Search
import StorageInventory.Proofs.Vendor.Outcome

/-!
# Batteries of controllers

What a listing says of the backup unit of a controller, and what is read of it. A listing may say
nothing; otherwise the last state counts for MegaRAID, and one count above zero is enough for Smart
Array. Main statement: what is said is read, and where nothing is said the unit is read as absent
and never shown as unknown (`decode_battery`).
-/

namespace StorageInventory

/-- What is decoded of the backup unit of a controller, against what the listing reports. -/
structure ReadAs (reported decoded : Option Bool) : Prop where
  eq : decoded = some (reported.getD false)
  agrees : decoded = reported ↔ reported ≠ none
  shown : Battery.ofReported decoded ≠ .unknown

theorem readAs_some_getD (reported : Option Bool) :
    ReadAs reported (some (reported.getD false)) where
  eq := rfl
  agrees := by cases reported <;> simp
  shown := by cases reported.getD false <;> decide

/-! ## MegaRAID -/

namespace MegaRaid

/-- The states of the backup unit on the lines up to the tool's clock. -/
def unitStates (lines : List String) : List String :=
  Listing.valuesOf "BBU" ((Listing.fields ":" lines).takeWhile (·.1 != "Current Time"))

/-- Whether the last of the states is that the unit is present. -/
def reportedBattery (lines : List String) : Option Bool :=
  (unitStates lines).getLast?.map (Text.sameLetters · "present")

theorem foldl_last (f : α → β) (xs : List α) (b : β) :
    xs.foldl (fun _ x => f x) b = (xs.getLast?.map f).getD b := by
  induction xs generalizing b with
  | nil => rfl
  | cons x xs ih =>
    rw [List.foldl_cons, ih, List.getLast?_cons]
    cases xs.getLast? <;> rfl

theorem adapter_battery (lines : List String) :
    (adapter lines).battery = some ((reportedBattery lines).getD false) := by
  have hfold : (adapter lines).battery =
      (unitStates lines).foldl (fun _ state => some (Text.sameLetters state "present"))
        (some false) :=
    Listing.foldl_valuesOf ControllerRecord.battery (fun _ _ => rfl) (by grind [setAdapterField]) _
  rw [hfold, foldl_last, reportedBattery]
  cases List.getLast? _ <;> rfl

end MegaRaid

/-! ## Smart Array -/

namespace SmartArray

/-- The counts of backup units. -/
def unitCounts (own : List String) : List String :=
  Listing.valuesOf "Battery/Capacitor Count" (Listing.fields ": " own)

/-- Whether a count that a 32-bit word holds is above zero. -/
def isPositive (count : String) : Bool := (Numeral.word32? count).any (0 < ·)

/-- Whether one of the counts is above zero. -/
def reportedBattery (own : List String) : Option Bool :=
  if unitCounts own = [] then none else some ((unitCounts own).any isPositive)

theorem isPositive_iff {count : String} (h : Numeral.digits? 10 count.toList = some n) :
    isPositive count = true ↔ 0 < n ∧ n < UInt32.size := by
  rw [isPositive, Numeral.word32?_of_digits? h]
  split
  next hlt =>
    rw [Option.any_some, decide_eq_true_eq, UInt32.lt_iff_toNat_lt, UInt32.toNat_ofNat_of_lt' hlt]
    exact (and_iff_left hlt).symm
  next hge => simp [hge]

theorem foldl_any (p : α → Bool) (xs : List α) (b : Bool) :
    xs.foldl (fun (b : Option Bool) x => b.map (· || p x)) (some b) = some (b || xs.any p) := by
  induction xs generalizing b with
  | nil => simp
  | cons x xs ih => rw [List.foldl_cons, Option.map_some, ih, List.any_cons, Bool.or_assoc]

theorem adapter_battery (own : List String) :
    (adapter own).battery = some ((reportedBattery own).getD false) := by
  have hfold : (adapter own).battery =
      (unitCounts own).foldl (fun b count => b.map (· || isPositive count)) (some false) :=
    Listing.foldl_valuesOf ControllerRecord.battery (fun _ _ => rfl)
      (by grind [setControllerField]) _
  rw [hfold, foldl_any, Bool.false_or, reportedBattery]
  split
  next hnone => rw [hnone]; rfl
  next => rfl

end SmartArray

/-! ## Inventories -/

/-- What a listing reports of the backup unit is decoded, and as absent where it reports nothing.
A count that no 32-bit word holds does not count. -/
theorem decode_battery (tool : Tool) (log : Logger) (c : ListedController) :
    (∀ v, (MegaRaid.decode tool log c).outcome = .ok v → ∃ output,
      (tool.run ["-AdpAllInfo", "-a" ++ c.adapterId, "-NoLog"]).outcome = .ok output ∧
      ReadAs (MegaRaid.reportedBattery (Text.lines output)) v.controller.battery) ∧
    (∀ v, (SmartArray.decode tool log c).outcome = .ok v → ∃ output,
      (tool.run (SmartArray.detailCommand c)).outcome = .ok output ∧
      ReadAs (SmartArray.reportedBattery (SmartArray.parts (Text.lines output)).1)
        v.controller.battery) ∧
    ∀ count n, Numeral.digits? 10 count.toList = some n →
      (SmartArray.isPositive count = true ↔ 0 < n ∧ n < UInt32.size) := by
  refine ⟨fun v h => ?_, fun v h => ?_, fun count n h => SmartArray.isPositive_iff h⟩
  · simp only [MegaRaid.decode_outcome, Attempt.bind_eq_ok_iff, Attempt.map_eq_ok_iff] at h
    obtain ⟨output, hrun, _, -, _, -, _, -, _, -, rfl⟩ := h
    refine ⟨output, hrun, ?_⟩
    rw [MegaRaid.inventory, MegaRaid.adapter_battery]
    exact readAs_some_getD _
  · rw [SmartArray.decode_outcome, Attempt.bind_eq_ok_iff] at h
    obtain ⟨output, hrun, h⟩ := h
    refine ⟨output, hrun, ?_⟩
    dsimp only at h
    split at h
    · cases h
    · obtain rfl := Except.ok.inj h
      rw [SmartArray.inventory, SmartArray.adapter_battery]
      exact readAs_some_getD _

/-- A tool of either family that answers these texts about a controller. -/
def unitTool (megaRaid smartArray : String) : Tool where
  family := .megaRaid
  program := some "tool"
  runner := { run := fun _ args => match args with
    | "-AdpAllInfo" :: _ => .ok megaRaid
    | "controller" :: _ => .ok smartArray
    | _ => .ok "x" }

/-- What is decoded when nothing but the backup unit is known of a controller. -/
def unitInventory (present : Bool) : Inventory where
  controller := { adapterId := "0", battery := some present }

/-- Texts with several lines about the backup unit. -/
def repeatedUnit : Tool :=
  unitTool "BBU: Absent\nBBU: PRESENT\nCurrent Time: 1\nBBU: Absent"
    "Smart HBA in Slot\nBattery/Capacitor Count: 2\nBattery/Capacitor Count: 0"

/-- Texts without such a line. -/
def silentUnit : Tool := unitTool "Current Time: 1\nBBU: Present" "Smart HBA in Slot"

/-- The state in front of the clock counts, and the count above zero. -/
theorem decode_battery_repeated :
    (MegaRaid.decode repeatedUnit .fallback { adapterId := "0" }).outcome =
        .ok (unitInventory true) ∧
      (SmartArray.decode repeatedUnit .fallback { adapterId := "0" }).outcome =
        .ok (unitInventory true) ∧
      (∃ output, (repeatedUnit.run ["-AdpAllInfo", "-a0", "-NoLog"]).outcome = .ok output ∧
        ReadAs (MegaRaid.reportedBattery (Text.lines output)) (some true)) ∧
      (∃ output,
        (repeatedUnit.run (SmartArray.detailCommand { adapterId := "0" })).outcome = .ok output ∧
        ReadAs (SmartArray.reportedBattery (SmartArray.parts (Text.lines output)).1) (some true)) ∧
      SmartArray.isPositive "4294967296" = false := by
  have hmegaRaid : (MegaRaid.decode repeatedUnit .fallback { adapterId := "0" }).outcome =
      .ok (unitInventory true) := by decide +kernel
  have hsmartArray : (SmartArray.decode repeatedUnit .fallback { adapterId := "0" }).outcome =
      .ok (unitInventory true) := by decide +kernel
  obtain ⟨hfirst, hsecond, hcount⟩ :=
    decode_battery repeatedUnit .fallback { adapterId := "0" }
  refine ⟨hmegaRaid, hsmartArray, hfirst _ hmegaRaid, hsecond _ hsmartArray, ?_⟩
  rw [Bool.eq_false_iff, ne_eq, hcount "4294967296" 4294967296 (by decide +kernel)]
  decide

/-- A unit of which the texts say nothing is decoded as absent. -/
theorem silent_unit_absent :
    (MegaRaid.decode silentUnit .fallback { adapterId := "0" }).outcome =
        .ok (unitInventory false) ∧
      ((silentUnit.run ["-AdpAllInfo", "-a0", "-NoLog"]).outcome.map fun output =>
        MegaRaid.reportedBattery (Text.lines output)) = .ok none ∧
      (SmartArray.decode silentUnit .fallback { adapterId := "0" }).outcome =
        .ok (unitInventory false) ∧
      ((silentUnit.run (SmartArray.detailCommand { adapterId := "0" })).outcome.map fun output =>
        SmartArray.reportedBattery (SmartArray.parts (Text.lines output)).1) = .ok none := by
  decide +kernel

end StorageInventory
