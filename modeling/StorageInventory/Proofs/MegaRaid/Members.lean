import StorageInventory.Proofs.Vendor.Outcome

/-!
# The free drives of a MegaRAID inventory

Which of the listed drives are left out of an inventory because a volume has them. Main statement:
those that share a world wide name or an inquiry text with a member, which leaves a drive out
whose world wide name is its own when another drive of its model is a member.
-/

namespace StorageInventory.MegaRaid

/-! ## Members -/

/-- A drive has an identifier that some member has too. -/
def Shares (identifier : DriveIdentity → Option String) (members : List PhysicalDrive)
    (d : PhysicalDrive) : Prop :=
  ∃ m ∈ members, (identifier d.ids).isSome ∧ identifier m.ids = identifier d.ids

instance : Decidable (Shares identifier members d) :=
  inferInstanceAs (Decidable (∃ m ∈ members, _))

/-- A drive is a member by its world wide name, or by its inquiry text when it has no world wide
name. -/
def IsReferenced (members : List PhysicalDrive) (d : PhysicalDrive) : Prop :=
  Shares (·.wwn) members d ∨ d.ids.wwn = none ∧ Shares (·.inquiry) members d

instance : Decidable (IsReferenced members d) := inferInstanceAs (Decidable (_ ∨ _))

theorem any_shares (identifier : DriveIdentity → Option String) (members : List PhysicalDrive)
    (d : PhysicalDrive) :
    (identifier d.ids).any (fun x => members.any fun m => identifier m.ids == some x) ↔
      Shares identifier members d := by
  unfold Shares
  cases identifier d.ids <;> simp

theorem isMember_iff (members : List PhysicalDrive) (d : PhysicalDrive) :
    isMember members d ↔ Shares (·.wwn) members d ∨ Shares (·.inquiry) members d := by
  rw [← any_shares, ← any_shares, isMember, Bool.or_eq_true]

theorem iff_isReferenced_iff (members : List PhysicalDrive) (d : PhysicalDrive) :
    (Shares (·.wwn) members d ∨ Shares (·.inquiry) members d ↔ IsReferenced members d) ↔
      (d.ids.wwn.isSome → Shares (·.inquiry) members d → Shares (·.wwn) members d) := by
  unfold IsReferenced
  cases d.ids.wwn <;> simp

/-! ## Free drives -/

/-- The members of the volumes of an inventory. -/
def volumeMembers (v : Inventory) : List PhysicalDrive := v.volumes.flatMap (·.members)

/-- An inventory has the listed drives that are not left out, in order and each as often as it is
listed: those with the state `JBOD` are exposed, and the others are unconfigured. -/
structure LeavesOut (leftOut : PhysicalDrive → Prop) [DecidablePred leftOut]
    (all : List PhysicalDrive) (v : Inventory) : Prop where
  exposed : v.exposed = all.filter fun d => ¬leftOut d ∧ d.status = "JBOD"
  unconfigured : v.unconfigured = all.filter fun d => ¬leftOut d ∧ d.status ≠ "JBOD"

theorem inventory_leavesOut (c : ListedController) (record : ControllerRecord)
    (volumes : List VolumeRecord) (all : List PhysicalDrive) :
    LeavesOut (fun d => isMember (volumeMembers (inventory c record volumes all)) d) all
      (inventory c record volumes all) where
  exposed := by
    simp only [inventory, volumeMembers, List.filter_filter]
    exact List.filter_congr fun d _ => Bool.eq_iff_iff.mpr (by simp [and_comm])
  unconfigured := by
    simp only [inventory, volumeMembers, List.filter_filter]
    exact List.filter_congr fun d _ => Bool.eq_iff_iff.mpr (by simp [and_comm])

/-- Two rules leave out the same drives exactly when they agree on the listed drives. -/
theorem LeavesOut.iff {p q : PhysicalDrive → Prop} [DecidablePred p] [DecidablePred q]
    (h : LeavesOut p all v) : LeavesOut q all v ↔ ∀ d ∈ all, p d ↔ q d := by
  constructor
  · intro h' d hd
    -- the state of the drive says in which of the two lists both rules would have it
    by_cases hstatus : d.status = "JBOD"
    · have hmem : d ∈ all.filter (fun d => ¬p d ∧ d.status = "JBOD") ↔
          d ∈ all.filter (fun d => ¬q d ∧ d.status = "JBOD") := by
        rw [← h.exposed, ← h'.exposed]
      simpa [hd, hstatus, not_iff_not] using hmem
    · have hmem : d ∈ all.filter (fun d => ¬p d ∧ d.status ≠ "JBOD") ↔
          d ∈ all.filter (fun d => ¬q d ∧ d.status ≠ "JBOD") := by
        rw [← h.unconfigured, ← h'.unconfigured]
      simpa [hd, hstatus, not_iff_not] using hmem
  · intro hpq
    constructor
    · rw [h.exposed]
      exact List.filter_congr fun d hd => by simp [hpq d hd]
    · rw [h.unconfigured]
      exact List.filter_congr fun d hd => by simp [hpq d hd]

/-- A listed drive is left out when it shares a world wide name or an inquiry text with a member of
a kept volume. These are the drives of the rule that takes the inquiry text for a missing world
wide name only, unless a listed drive shares the inquiry text of a member and has a world wide name
that no member has. -/
theorem decode_leavesOut {tool : Tool} {log : Logger} {c : ListedController} {v : Inventory}
    (h : (decode tool log c).outcome = .ok v) :
    ∃ output all, (tool.run ["-PDList", "-a" ++ c.adapterId, "-NoLog"]).outcome = .ok output ∧
      drives (Listing.fields ":" (Text.lines output)) = .ok all ∧
      LeavesOut (fun d => Shares (·.wwn) (volumeMembers v) d ∨
        Shares (·.inquiry) (volumeMembers v) d) all v ∧
      (LeavesOut (IsReferenced (volumeMembers v)) all v ↔
        ∀ d ∈ all, d.ids.wwn.isSome → Shares (·.inquiry) (volumeMembers v) d →
          Shares (·.wwn) (volumeMembers v) d) := by
  simp only [decode_outcome, Attempt.bind_eq_ok_iff, Attempt.map_eq_ok_iff] at h
  obtain ⟨info, -, volumeText, -, found, -, output, hrun, all, hall, rfl⟩ := h
  have hmember := inventory_leavesOut c (adapter (Text.lines info))
    (Listing.firsts VolumeRecord.key found) all
  have hshares := hmember.iff.mpr fun d _ => isMember_iff _ d
  exact ⟨output, all, hrun, hall, hshares,
    hshares.iff.trans (forall₂_congr fun d _ => iff_isReferenced_iff _ d)⟩

/-- A volume with one member, and the list of this member and a drive of the same model. -/
def twinTool : Tool where
  family := .megaRaid
  program := some "/usr/sbin/megacli"
  runner := { run := fun _ args => match args with
    | "-LDPDInfo" :: _ => .ok
        ("Virtual Drive: 0 (Target Id: 0)\nNumber of Spans: 1\n" ++
          "Enclosure Device ID: 8\nWWN: 5\nInquiry Data: M")
    | "-PDList" :: _ => .ok
        ("Enclosure Device ID: 8\nWWN: 5\nInquiry Data: M\n" ++
          "Enclosure Device ID: 8\nWWN: 6\nInquiry Data: M")
    | _ => .ok "x" }

def adapterZero : ListedController := { adapterId := "0" }

/-- A drive of the model with a world wide name. -/
def twin (wwn : String) : PhysicalDrive where
  family := .megaRaid
  enclosure := "8"
  model := "M"
  ids := { wwn := some wwn, inquiry := some "M" }

def twinInventory : Inventory where
  controller := { adapterId := "0", battery := some false }
  volumes := [{ key := .target 0, label := "grp:0", members := [twin "0x5"] }]

theorem decode_twin : (decode twinTool .fallback adapterZero).outcome = .ok twinInventory := by
  decide +kernel

/-- The drive outside of the volume shares the inquiry text of the member and is left out. -/
theorem decode_leavesOut_twin :
    (decode twinTool .fallback adapterZero).outcome = .ok twinInventory ∧
    ∃ output all,
      (twinTool.run ["-PDList", "-a" ++ adapterZero.adapterId, "-NoLog"]).outcome = .ok output ∧
      drives (Listing.fields ":" (Text.lines output)) = .ok all ∧
      LeavesOut (fun d => Shares (·.wwn) (volumeMembers twinInventory) d ∨
        Shares (·.inquiry) (volumeMembers twinInventory) d) all twinInventory ∧
      (LeavesOut (IsReferenced (volumeMembers twinInventory)) all twinInventory ↔
        ∀ d ∈ all, d.ids.wwn.isSome →
          Shares (·.inquiry) (volumeMembers twinInventory) d →
          Shares (·.wwn) (volumeMembers twinInventory) d) :=
  ⟨decode_twin, decode_leavesOut decode_twin⟩

/-- A drive whose world wide name no member has is in neither list of free drives. -/
theorem twin_left_out :
    (decode twinTool .fallback adapterZero).outcome = .ok twinInventory ∧
      ((twinTool.run ["-PDList", "-a" ++ adapterZero.adapterId, "-NoLog"]).outcome.bind
        fun output => drives (Listing.fields ":" (Text.lines output))) =
          .ok [twin "0x5", twin "0x6"] ∧
      ¬Shares (·.wwn) (volumeMembers twinInventory) (twin "0x6") ∧
      ¬LeavesOut (IsReferenced (volumeMembers twinInventory))
        [twin "0x5", twin "0x6"] twinInventory := by
  refine ⟨decode_twin, by decide +kernel, by decide, fun h => ?_⟩
  exact absurd h.unconfigured (by decide)

end StorageInventory.MegaRaid
