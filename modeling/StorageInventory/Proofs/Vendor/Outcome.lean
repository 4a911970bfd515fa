import StorageInventory.Proofs.Listing.Firsts
import StorageInventory.Proofs.Trace.Outcomes
import StorageInventory.Vendor

/-!
# Outcomes of the vendor tools

What listing, decoding and binding give, as functions of what the commands answer: one equation for
each step of each family, without notes and without the order of steps that cannot fail.
-/

namespace StorageInventory

namespace Tool

/-- A tool that is installed answers with text; blank output is a failure. -/
theorem run_outcome (tool : Tool) (args : List String) :
    (tool.run args).outcome =
      match tool.program with
      | none => .error (.toolUnavailable tool.family)
      | some program => (tool.runner.run program args).bind fun output =>
        if Text.isBlank output then .error (.unreadableOutput tool.family .blank)
        else .ok output := by
  unfold run
  cases tool.program with
  | none => rfl
  | some program =>
    simp only [Runner.attempt, Attempt.outcome_bind, Attempt.outcome_lift, Except.bind,
      Attempt.outcome_ofOutcome]
    cases tool.runner.run program args with
    | error e => rfl
    | ok output => cases h : Text.isBlank output <;> simp [h]

/-- A tool that is installed, runs and prints something gives its output. -/
theorem run_of_text {tool : Tool} (hprogram : tool.program = some path)
    (hrun : tool.runner.run path args = .ok output) (htext : Text.isBlank output = false) :
    (tool.run args).outcome = .ok output := by
  rw [run_outcome, hprogram]
  simp [hrun, Except.bind, htext]

end Tool

namespace MegaRaid

/-- The inventory that a controller's record, its volumes and its listed drives amount to. -/
def inventory (c : ListedController) (record : ControllerRecord) (volumes : List VolumeRecord)
    (all : List PhysicalDrive) : Inventory :=
  let others := all.filter (!isMember (volumes.flatMap (·.members)) ·)
  { controller := { record with adapterId := c.adapterId, pci := c.pci }
    volumes
    exposed := others.filter (·.status == "JBOD")
    unconfigured := others.filter (·.status != "JBOD") }

/-- What is decoded, without the notes on the way: three commands, each needed, and the inventory
that their outputs make. -/
theorem decode_outcome (tool : Tool) (log : Logger) (c : ListedController) :
    (decode tool log c).outcome =
      (tool.run ["-AdpAllInfo", "-a" ++ c.adapterId, "-NoLog"]).outcome.bind fun info =>
      (tool.run ["-LDPDInfo", "-a" ++ c.adapterId, "-NoLog"]).outcome.bind fun volumeText =>
      (volumes log (Listing.fields ":" (Text.lines volumeText))).outcome.bind fun found =>
      (tool.run ["-PDList", "-a" ++ c.adapterId, "-NoLog"]).outcome.bind fun driveText =>
      (drives (Listing.fields ":" (Text.lines driveText))).map fun all =>
        inventory c (adapter (Text.lines info)) (Listing.firsts VolumeRecord.key found) all := by
  simp only [decode, countedDrives, Attempt.outcome_bind, Attempt.outcome_lift,
    Attempt.outcome_ofOutcome, Attempt.outcome_pure, Listing.keepFirst_nil_value, Attempt.ok_bind]
  refine congrArg _ (funext fun info => ?_)
  refine congrArg _ (funext fun volumeText => ?_)
  refine congrArg _ (funext fun found => ?_)
  refine congrArg _ (funext fun driveText => ?_)
  cases drives (Listing.fields ":" (Text.lines driveText)) <;> rfl

end MegaRaid

namespace SasIr

theorem decode_outcome (tool : Tool) (log : Logger) (c : ListedController) :
    (decode tool log c).outcome =
      (tool.run [c.adapterId, "DISPLAY"]).outcome.bind fun output =>
        let content := content (Text.lines output)
        let deviceLines := sectionLines .devices content
        if deviceLines.isEmpty then .error (.unreadableOutput .sasIr .noDeviceSection)
        else
          let record :=
            (Listing.fields ":" (sectionLines .controller content)).foldl setControllerField {}
          let named :=
            Listing.firsts (·.record.key) (volumes log (sectionLines .volumes content)).value
          let pool := Listing.firsts PhysicalDrive.position (disks deviceLines)
          .ok {
            controller := {
              record with
              adapterId := c.adapterId, pci := c.pci, productName := c.productName }
            volumes := (assemble log named pool).value.1
            exposed := (assemble log named pool).value.2 } := by
  simp only [decode, Attempt.outcome_bind, Attempt.outcome_lift, Listing.keepFirst_nil_value,
    Attempt.ok_bind]
  refine congrArg _ (funext fun output => ?_)
  split
  · rfl
  · simp only [Attempt.outcome_bind, Attempt.outcome_lift, Attempt.outcome_pure,
      Listing.keepFirst_nil_value, Attempt.ok_bind]

end SasIr

namespace SmartArray

/-- The inventory that the lines about a controller and the lines about its drives amount to. -/
def inventory (c : ListedController) (own others : List String) : Inventory :=
  let record := adapter own
  let seen := drives (arrays others).2
  { controller := {
      record with
      adapterId := c.adapterId, pci := record.pci <|> c.pci, productName := c.productName }
    volumes := Listing.firsts VolumeRecord.key ((arrays others).1.flatMap volumes)
    exposed := (seen.filter (·.2)).map (·.1)
    unconfigured := (seen.filter (!·.2)).map (·.1) }

theorem decode_outcome (tool : Tool) (log : Logger) (c : ListedController) :
    (decode tool log c).outcome =
      (tool.run ["controller", "slot=" ++ c.adapterId, "show", "config", "detail"]).outcome.bind
        fun output =>
          let (own, others) := parts (Text.lines output)
          if own.isEmpty then .error (.unreadableOutput .smartArray .noControllerBlock)
          else .ok (inventory c own others) := by
  simp only [decode, Attempt.outcome_bind, Attempt.outcome_lift, Attempt.ok_bind]
  refine congrArg _ (funext fun output => ?_)
  split
  · rfl
  · simp only [Attempt.outcome_bind, Attempt.outcome_lift, Attempt.outcome_pure,
      Listing.keepFirst_nil_value, Attempt.ok_bind, inventory]

end SmartArray

end StorageInventory
