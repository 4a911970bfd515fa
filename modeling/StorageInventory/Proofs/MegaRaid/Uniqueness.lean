import StorageInventory.Proofs.Matching.Conservation
import StorageInventory.Proofs.MegaRaid.Members

/-!
# Uniqueness of MegaRAID drives

A drive is printed by two commands, once as a member of its volume and once in the list of drives.
Main statement: as long as neither print names a world wide name twice, no drive is in two places of
a resolution, whatever block devices were matched (`resolve_decoded_nodup`).
-/

namespace StorageInventory.MegaRaid

/-- The world wide names of drives; a drive may have none. -/
def wwns (ds : List PhysicalDrive) : List String := ds.filterMap (·.ids.wwn)

theorem mem_wwns : w ∈ wwns ds ↔ ∃ d ∈ ds, d.ids.wwn = some w := List.mem_filterMap

theorem wwns_nodup_of_perm (h : ds.Perm es) : (wwns ds).Nodup ↔ (wwns es).Nodup :=
  (h.filterMap _).nodup_iff

namespace LeavesOut
variable {leftOut : PhysicalDrive → Prop} [DecidablePred leftOut]

/-- The exposed and the unconfigured drives are the listed drives that are not left out. -/
theorem free_perm (h : LeavesOut leftOut all v) :
    (v.exposed ++ v.unconfigured).Perm (all.filter fun d => ¬leftOut d) := by
  have hsplit := List.filter_append_perm (fun d => decide (d.status = "JBOD"))
    (all.filter fun d => ¬leftOut d)
  rw [h.exposed, h.unconfigured]
  simpa [List.filter_filter, Bool.and_comm] using hsplit

/-- When all drives that share a world wide name with a member are left out, a drive has at most one
of the two prints. -/
theorem wwns_nodup (h : LeavesOut leftOut all v)
    (hshares : ∀ d ∈ all, Shares (·.wwn) (volumeMembers v) d → leftOut d)
    (hmembers : (wwns (volumeMembers v)).Nodup) (hlisted : (wwns all).Nodup) :
    (wwns v.drives).Nodup := by
  have hdrives : v.drives.Perm (volumeMembers v ++ all.filter fun d => ¬leftOut d) := by
    rw [Inventory.drives, List.append_assoc]
    exact h.free_perm.append_left _
  rw [wwns_nodup_of_perm hdrives, wwns, List.filterMap_append, List.nodup_append]
  refine ⟨hmembers, hlisted.sublist (List.filter_sublist.filterMap _), ?_⟩
  rintro w hw _ hw' rfl
  obtain ⟨m, hm, hmw⟩ := mem_wwns.mp hw
  obtain ⟨d, hd, hdw⟩ := mem_wwns.mp hw'
  obtain ⟨hd, hfree⟩ := List.mem_filter.mp hd
  have hshared : Shares (·.wwn) (volumeMembers v) d := ⟨m, hm, by simp [hdw], hmw.trans hdw.symm⟩
  exact of_decide_eq_true hfree (hshares d hd hshared)

end LeavesOut

/-- An inventory that is decoded has the first volume of each key and the drives of the list. -/
theorem decode_inventory (h : (decode tool log c).outcome = .ok v) :
    ∃ record found output all,
      (tool.run ["-PDList", "-a" ++ c.adapterId, "-NoLog"]).outcome = .ok output ∧
      drives (Listing.fields ":" (Text.lines output)) = .ok all ∧
      v = inventory c record (Listing.firsts VolumeRecord.key found) all := by
  simp only [decode_outcome, Attempt.bind_eq_ok_iff, Attempt.map_eq_ok_iff] at h
  obtain ⟨info, -, _, -, found, -, output, hrun, all, hall, rfl⟩ := h
  exact ⟨adapter (Text.lines info), found, output, all, hrun, hall, rfl⟩

theorem decode_keys_nodup (h : (decode tool log c).outcome = .ok v) :
    (v.volumes.map (·.key)).Nodup := by
  obtain ⟨_, found, _, _, _, _, rfl⟩ := decode_inventory h
  exact Listing.firsts_keys_nodup VolumeRecord.key found

theorem decode_leavesOut_members (h : (decode tool log c).outcome = .ok v)
    (hrun : (tool.run ["-PDList", "-a" ++ c.adapterId, "-NoLog"]).outcome = .ok output)
    (hall : drives (Listing.fields ":" (Text.lines output)) = .ok all) :
    LeavesOut (fun d => isMember (volumeMembers v) d) all v := by
  obtain ⟨_, _, _, _, hrun', hall', rfl⟩ := decode_inventory h
  cases hrun.symm.trans hrun'
  cases hall.symm.trans hall'
  exact inventory_leavesOut ..

/-- In an inventory that is decoded no two volumes have one key. When the members of its volumes
have distinct world wide names, and so have the listed drives, then no two drives of a resolution of
it have one world wide name, be they members, exposed or unconfigured. -/
theorem resolve_decoded_nodup {tool : Tool} {log : Logger} {c : ListedController} {v : Inventory}
    (h : (decode tool log c).outcome = .ok v) :
    (v.volumes.map (·.key)).Nodup ∧
      ∀ {output all}, (tool.run ["-PDList", "-a" ++ c.adapterId, "-NoLog"]).outcome = .ok output →
        drives (Listing.fields ":" (Text.lines output)) = .ok all →
        (wwns (volumeMembers v)).Nodup → (wwns all).Nodup →
        ∀ devices, (wwns (Resolution.resolve .megaRaid devices v).drives).Nodup := by
  refine ⟨decode_keys_nodup h, fun {output all} hrun hall hmembers hlisted devices => ?_⟩
  have hperm : (Resolution.resolve .megaRaid devices v).drives.Perm v.drives :=
    (Matching.visits_assign ..).drives_perm
  rw [wwns_nodup_of_perm hperm]
  refine (decode_leavesOut_members h hrun hall).wwns_nodup (fun d _ hshared => ?_) hmembers hlisted
  exact (isMember_iff _ d).mpr (.inl hshared)

/-- The list of drives of a volume with one member: the member, another drive, and two drives
without a name. -/
def onceList : String :=
  "Enclosure Device ID: 8\nWWN: 5\nEnclosure Device ID: 8\nWWN: 6\n" ++
    "Enclosure Device ID: 8\nEnclosure Device ID: 8"

def onceTool : Tool where
  family := .megaRaid
  program := some "/usr/sbin/megacli"
  runner := { run := fun _ args => match args with
    | "-LDPDInfo" :: _ => .ok
        ("Virtual Drive: 0 (Target Id: 0)\nNumber of Spans: 1\n" ++
          "Enclosure Device ID: 8\nWWN: 5")
    | "-PDList" :: _ => .ok onceList
    | _ => .ok "x" }

def onceDrive (wwn : Option String) : PhysicalDrive :=
  { family := .megaRaid, enclosure := "8", ids := { wwn } }

def onceInventory : Inventory where
  controller := { adapterId := "0", battery := some false }
  volumes := [{ key := .target 0, label := "grp:0", members := [onceDrive (some "0x5")] }]
  unconfigured := [onceDrive (some "0x6"), onceDrive none, onceDrive none]

theorem decode_once : (decode onceTool .fallback adapterZero).outcome = .ok onceInventory := by
  decide +kernel

/-- The volume is no block device, and its member is left over beside the listed drives. -/
theorem resolve_decoded_nodup_once :
    (decode onceTool .fallback adapterZero).outcome = .ok onceInventory ∧
      (onceInventory.volumes.map (·.key)).Nodup ∧
      (wwns (Resolution.resolve .megaRaid [] onceInventory).drives).Nodup ∧
      wwns (Resolution.resolve .megaRaid [] onceInventory).unconfiguredDrives = ["0x5", "0x6"] := by
  have hrun : (onceTool.run ["-PDList", "-a" ++ adapterZero.adapterId, "-NoLog"]).outcome =
      .ok onceList := Tool.run_of_text rfl rfl (by decide +kernel)
  have hlisted : drives (Listing.fields ":" (Text.lines onceList)) =
      .ok [onceDrive (some "0x5"), onceDrive (some "0x6"), onceDrive none, onceDrive none] := by
    decide +kernel
  have h := resolve_decoded_nodup decode_once
  exact ⟨decode_once, h.1, h.2 hrun hlisted (by decide) (by decide) [], by decide⟩

end StorageInventory.MegaRaid
