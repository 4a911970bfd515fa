import StorageInventory.Proofs.Matching.Stability

/-!
# The order of discovery

Devices compete for a record only when they have an identifier or a volume key in common. What a
device takes leaves alone whatever fits a device apart from it (`Visit.exposed_fitting`,
`Visit.volumes_fitting`), so among devices that are apart each one takes what it would take alone
(`assign_apart`). Main statement: reordering such devices reorders their records and changes nothing
else (`resolve_reordered`).
-/

namespace StorageInventory.Matching

/-- Two devices that carry no identifier in common, whatever the field, and have no common key. -/
structure Apart (family : RaidFamily) (a b : BlockDevice) : Prop where
  ids : ∀ id, Carries a id → ¬Carries b id
  key : ∀ key, HasKey family a key → ¬HasKey family b key

theorem ShowsDrive.exists_driveId (h : ShowsDrive family device d) :
    ∃ id, driveId? family d = some id ∧ Carries device id := by
  cases h with
  | megaRaid hid hc | sasIr hid hc | smartArray hid hc => exact ⟨_, hid, hc⟩

namespace Apart
variable {family : RaidFamily} {a b : BlockDevice}

theorem symm (h : Apart family a b) : Apart family b a where
  ids id hb ha := h.ids id ha hb
  key key hb ha := h.key key ha hb

theorem iff_lists : Apart family a b ↔
    (∀ id ∈ deviceIds a, id ∉ deviceIds b) ∧
      ∀ key ∈ (volumeKey? family a).toList, key ∉ (volumeKey? family b).toList := by
  simp only [mem_deviceIds, Option.mem_toList, volumeKey?_eq_some_iff]
  exact ⟨fun h => ⟨h.ids, h.key⟩, fun h => ⟨h.1, h.2⟩⟩

instance : Decidable (Apart family a b) := decidable_of_iff' _ iff_lists

theorem not_shows (h : Apart family a b) (ha : ShowsDrive family a d) :
    ¬ShowsDrive family b d := by
  intro hb
  obtain ⟨id, hid, ha⟩ := ha.exists_driveId
  obtain ⟨id', hid', hb⟩ := hb.exists_driveId
  cases hid.symm.trans hid'
  exact h.ids id ha hb

end Apart

/-! ## One device -/

/-- What a device takes is not among what does not fit it. -/
theorem Takes.filter_rest {fits : α → Prop} {p : α × Nat → Bool}
    (h : Takes fits pool taken rest) (hp : ∀ x, fits x.1 → p x = false) :
    rest.filter p = pool.filter p := by
  cases h with
  | first hx =>
    have hx := hp _ hx
    simp [hx]
  | nothing => rfl

namespace Visit

theorem exposed_fitting (h : Visit family a free r free') (hapart : Apart family a b) :
    free'.exposed.filter (isDrive family b ·.1) = free.exposed.filter (isDrive family b ·.1) := by
  cases h with
  | exposed h =>
    refine h.filter_rest fun x hx => ?_
    rw [← Bool.not_eq_true, isDrive_iff]
    exact hapart.not_shows hx
  | volume | bare => rfl

theorem volumes_fitting (h : Visit family a free r free') (hapart : Apart family a b) :
    free'.volumes.filter (isVolume family b ·.1) = free.volumes.filter (isVolume family b ·.1) := by
  cases h with
  | volume _ h =>
    refine h.filter_rest fun x hx => ?_
    rw [← Bool.not_eq_true, isVolume_iff]
    exact hapart.key _ hx
  | exposed | bare => rfl

end Visit

/-- The role of a device is settled by the free records that fit it. -/
theorem role_congr
    (hd : free'.exposed.filter (isDrive family device ·.1) =
      free.exposed.filter (isDrive family device ·.1))
    (hv : free'.volumes.filter (isVolume family device ·.1) =
      free.volumes.filter (isVolume family device ·.1)) :
    (role family free' device).1 = (role family free device).1 := by
  have hrole (free : Free) : (role family free device).1 =
      match (free.exposed.filter (isDrive family device ·.1)).head? with
      | some (d, i) => .exposed d i
      | none =>
        match (free.volumes.filter (isVolume family device ·.1)).head? with
        | some (v, i) => .volume v i
        | none => .bare := by
    rw [List.head?_filter, List.head?_filter, ← Pool.map_take?, ← Pool.map_take?, role]
    cases Pool.take? (isDrive family device ·.1) free.exposed with
    | some => rfl
    | none => cases Pool.take? (isVolume family device ·.1) free.volumes <;> rfl
  rw [hrole, hrole, hd, hv]

/-! ## A list of devices -/

/-- A device with the role that it has when all records of the inventory are free. -/
def alone (family : RaidFamily) (vendor : Inventory) (device : BlockDevice) : BlockDevice × Role :=
  (device, (role family (.ofInventory vendor) device).1)

/-- Of devices that are apart each has the role that it would have first. -/
theorem assign_apart (family : RaidFamily) (free : Free)
    (hapart : devices.Pairwise (Apart family)) :
    (assign family free devices).1 = devices.map fun d => (d, (role family free d).1) := by
  induction devices generalizing free with
  | nil => rfl
  | cons a devices ih =>
    obtain ⟨ha, hrest⟩ := List.pairwise_cons.mp hapart
    -- The first device takes only what fits none of the others, so they have the choice they had.
    have hvisit := visit_role family free a
    have hsame : ∀ b ∈ devices, (role family (role family free a).2 b).1 = (role family free b).1 :=
      fun b hb => role_congr (hvisit.exposed_fitting (ha b hb)) (hvisit.volumes_fitting (ha b hb))
    have hfirst : (assign family free (a :: devices)).1 =
        (a, (role family free a).1) :: (assign family (role family free a).2 devices).1 := rfl
    rw [hfirst, List.map_cons, ih _ hrest, List.map_congr_left]
    intro b hb
    rw [hsame b hb]

/-- What no role has does not depend on the order of the roles. -/
theorem unassigned_perm (vendor : Inventory) {roles roles' : List Role} (h : roles.Perm roles') :
    unassigned vendor roles' = unassigned vendor roles := by
  simp only [unassigned, h.mem_iff]

/-- Devices that are apart have the same records in any order: volumes and exposed drives follow
the order of the devices, each with the record that the device would have alone, and the same drives
are unconfigured. -/
theorem resolve_reordered (family : RaidFamily) (vendor : Inventory)
    (hapart : devices.Pairwise (Apart family)) (hperm : devices.Perm devices') :
    let r := Resolution.resolve family devices vendor
    let r' := Resolution.resolve family devices' vendor
    (r.volumes = (devices.map (alone family vendor)).filterMap (volume? family) ∧
      r'.volumes = (devices'.map (alone family vendor)).filterMap (volume? family)) ∧
    (r.exposedDrives = (devices.map (alone family vendor)).filterMap exposedDrive? ∧
      r'.exposedDrives = (devices'.map (alone family vendor)).filterMap exposedDrive?) ∧
    r'.unconfiguredDrives = r.unconfiguredDrives := by
  intro r r'
  have hapart' : devices'.Pairwise (Apart family) := hapart.perm hperm Apart.symm
  have hroles := assign_apart family (.ofInventory vendor) hapart
  have hroles' := assign_apart family (.ofInventory vendor) hapart'
  have hleft := (visits_assign family (.ofInventory vendor) devices).left_eq_unassigned
  have hleft' := (visits_assign family (.ofInventory vendor) devices').left_eq_unassigned
  have hfree : (assign family (.ofInventory vendor) devices').2 =
      (assign family (.ofInventory vendor) devices).2 := by
    rw [hleft, hleft', hroles, hroles']
    exact unassigned_perm vendor ((hperm.map _).map _)
  refine ⟨⟨?_, ?_⟩, ⟨?_, ?_⟩, ?_⟩
  · exact congrArg (List.filterMap (volume? family)) hroles
  · exact congrArg (List.filterMap (volume? family)) hroles'
  · exact congrArg (List.filterMap exposedDrive?) hroles
  · exact congrArg (List.filterMap exposedDrive?) hroles'
  · exact congrArg (leftover · vendor) hfree

/-- Three drives and two volumes, each kind with a repeated identifier. -/
def repeatedInventory : Inventory where
  exposed := ["0xb", "0xa", "0xa"].map fun id =>
    { family := .sasIr, slot := id, ids := { sasAddress := some id } }
  volumes := ["first", "second"].map fun label => { key := .sasAddress "0xc", label }

/-- A device that shows a drive by each of its identifiers, one with the key of both volumes, and
one without identifiers. -/
def apartDevices : List BlockDevice :=
  [{ name := "sda", sasAddress := some "0xa", wwn := some "0xb" },
    { name := "sdb", sasAddress := some "0xc" }, { name := "sdc" }]

/-- Visited from the last to the first, each device has the record that it would have alone. -/
theorem resolve_reordered_repeated :
    let r := Resolution.resolve .sasIr apartDevices repeatedInventory
    let r' := Resolution.resolve .sasIr apartDevices.reverse repeatedInventory
    apartDevices.Pairwise (Apart .sasIr) ∧ apartDevices.Perm apartDevices.reverse ∧
      r'.volumes.map (fun v => (v.name, v.data.map (·.label))) =
        [("sdc", none), ("sdb", some "first")] ∧
      r'.exposedDrives.map (fun d => (d.kernel.name, d.drive.slot)) = [("sda", "0xb")] ∧
      r'.unconfiguredDrives = r.unconfiguredDrives := by
  have hapart : apartDevices.Pairwise (Apart .sasIr) := by decide
  have hperm : apartDevices.Perm apartDevices.reverse := (List.reverse_perm _).symm
  obtain ⟨⟨_, hvolumes⟩, ⟨_, hexposed⟩, hleft⟩ :=
    resolve_reordered .sasIr repeatedInventory hapart hperm
  refine ⟨hapart, hperm, ?_, ?_, hleft⟩
  · rw [hvolumes]
    decide
  · rw [hexposed]
    decide

end StorageInventory.Matching
