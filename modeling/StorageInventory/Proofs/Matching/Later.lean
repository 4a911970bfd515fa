import StorageInventory.Proofs.Matching.Stability

/-!
# Devices that come later

Devices that are matched behind others take what those left (`assign_append`), so they add to a
resolution at the end of its lists and take drives from its leftovers, one by one those of the
records that they take (`leftoverEntries_without`). Main statement: the roles of the first devices
are the same with and without the others (`resolve_append`).
-/

namespace StorageInventory.Matching

theorem assign_append (family : RaidFamily) (free : Free) (devices later : List BlockDevice) :
    assign family free (devices ++ later) =
      ((assign family free devices).1 ++ (assign family (assign family free devices).2 later).1,
        (assign family (assign family free devices).2 later).2) := by
  induction devices generalizing free with
  | nil => rfl
  | cons device devices ih => simp only [List.cons_append, assign, ih]

/-! ## Leftover drives one by one -/

/-- The drives of a volume, each with the role that would take it along. -/
def volumeEntries (x : VolumeRecord × Nat) : List (PhysicalDrive × Option Role) :=
  x.1.members.map fun d => (d, some (.volume x.1 x.2))

/-- The leftover drives, each with the role that would take it along; the tool's own unconfigured
drives are in no record, and no role takes them. -/
def leftoverEntries (free : Free) (vendor : Inventory) : List (PhysicalDrive × Option Role) :=
  free.exposed.map (fun x => (x.1, some (.exposed x.1 x.2))) ++
    free.volumes.flatMap volumeEntries ++ vendor.unconfigured.map fun d => (d, none)

/-- None of the roles takes the drive along. -/
def Remains (roles : List Role) (entry : PhysicalDrive × Option Role) : Prop :=
  ∀ r ∈ entry.2, r ∉ roles

instance : Decidable (Remains roles entry) :=
  inferInstanceAs (Decidable (∀ r ∈ entry.2, r ∉ roles))

theorem remains_some : Remains roles (d, some r) ↔ r ∉ roles := by simp [Remains]

theorem remains_none (roles : List Role) (d : PhysicalDrive) : Remains roles (d, none) := by
  simp [Remains]

theorem leftoverEntries_drives (free : Free) (vendor : Inventory) :
    (leftoverEntries free vendor).map Prod.fst = leftover free vendor := by
  simp [leftoverEntries, volumeEntries, leftover, List.map_flatMap, Function.comp_def]

/-- The drives of a volume remain together or not at all. -/
theorem filter_volumeEntries (roles : List Role) (x : VolumeRecord × Nat) :
    (volumeEntries x).filter (Remains roles) =
      if .volume x.1 x.2 ∉ roles then volumeEntries x else [] := by
  have hiff : ∀ entry ∈ volumeEntries x, Remains roles entry ↔ .volume x.1 x.2 ∉ roles := by
    intro entry hentry
    obtain ⟨d, -, rfl⟩ := List.mem_map.mp hentry
    exact remains_some
  split
  next h =>
    rw [List.filter_eq_self]
    exact fun entry hentry => decide_eq_true ((hiff entry hentry).mpr h)
  next h =>
    rw [List.filter_eq_nil_iff]
    exact fun entry hentry hremains => h ((hiff entry hentry).mp (of_decide_eq_true hremains))

theorem filter_flatMap_volumeEntries (roles : List Role) (volumes : List (VolumeRecord × Nat)) :
    (volumes.flatMap volumeEntries).filter (Remains roles) =
      (volumes.filter fun x => .volume x.1 x.2 ∉ roles).flatMap volumeEntries := by
  induction volumes with
  | nil => rfl
  | cons x volumes ih =>
    rw [List.flatMap_cons, List.filter_append, ih, filter_volumeEntries]
    by_cases h : .volume x.1 x.2 ∈ roles
    · rw [if_neg (not_not_intro h), List.filter_cons_of_neg (by simpa using h), List.nil_append]
    · rw [if_pos h, List.filter_cons_of_pos (by simpa using h), List.flatMap_cons]

/-- The drives of the records that roles take are gone, each at its place. -/
theorem leftoverEntries_without (free : Free) (vendor : Inventory) (roles : List Role) :
    leftoverEntries (free.without roles) vendor =
      (leftoverEntries free vendor).filter (Remains roles) := by
  have hexposed :
      (free.exposed.map fun x => (x.1, some (Role.exposed x.1 x.2))).filter (Remains roles) =
        (free.without roles).exposed.map fun x => (x.1, some (.exposed x.1 x.2)) := by
    rw [List.filter_map]
    congr 1
    exact List.filter_congr fun x _ => decide_eq_decide.mpr remains_some
  have hunconfigured : (vendor.unconfigured.map fun d => (d, (none : Option Role))).filter
      (Remains roles) = vendor.unconfigured.map fun d => (d, none) := by
    rw [List.filter_map]
    congr 1
    rw [List.filter_eq_self]
    exact fun d _ => decide_eq_true (remains_none roles d)
  rw [leftoverEntries, leftoverEntries, List.filter_append, List.filter_append, hexposed,
    filter_flatMap_volumeEntries, hunconfigured]
  rfl

/-! ## Resolutions -/

/-- What a resolution `r`, of devices with the roles `before`, becomes in `r'` when devices with the
roles `after` follow. -/
structure Continues (vendor : Inventory) (before after : List Role) (r r' : Resolution) :
    Prop where
  volumes : r.volumes <+: r'.volumes
  exposedDrives : r.exposedDrives <+: r'.exposedDrives
  unconfigured_sublist : r'.unconfiguredDrives.Sublist r.unconfiguredDrives
  /-- The drives that are gone are those of the volumes and exposed drives at the end of `r'`. -/
  unconfigured_perm :
    ((r'.exposedDrives.drop r.exposedDrives.length).map (·.drive) ++
      (r'.volumes.drop r.volumes.length).flatMap (·.members) ++ r'.unconfiguredDrives).Perm
        r.unconfiguredDrives
  /-- Of equal drives those are gone that are in the records taken, each at its own place. -/
  unconfigured_before :
    r.unconfiguredDrives = (leftoverEntries (unassigned vendor before) vendor).map Prod.fst
  unconfigured_after : r'.unconfiguredDrives =
    ((leftoverEntries (unassigned vendor before) vendor).filter (Remains after)).map Prod.fst

/-- The drives that visits take out of the leftovers. -/
theorem Visits.leftover_perm (H : Visits family free roles free') (vendor : Inventory) :
    ((takenDrives roles).map (·.1) ++ (takenVolumes roles).flatMap (·.1.members) ++
      leftover free' vendor).Perm (leftover free vendor) := by
  have hd := H.takenDrives_perm.map (·.1)
  have hv := H.takenVolumes_perm.flatMap_right (·.1.members)
  rw [List.map_append] at hd
  rw [List.flatMap_append] at hv
  refine .trans ?_ ((hd.append hv).append_right vendor.unconfigured)
  rw [List.perm_iff_count]
  intro d
  simp only [leftover, List.count_append]
  omega

/-- The drives that visits leave, entry by entry. -/
theorem Visits.leftover_entries (H : Visits family (.ofInventory vendor) roles mid)
    (H' : Visits family mid roles' free) :
    leftover free vendor =
      ((leftoverEntries mid vendor).filter (Remains (roles'.map Prod.snd))).map Prod.fst := by
  have hexposed : mid.exposed.Nodup := (zipIdx_nodup _).sublist H.exposed_sublist
  have hvolumes : mid.volumes.Nodup := (zipIdx_nodup _).sublist H.volumes_sublist
  rw [← leftoverEntries_without, leftoverEntries_drives, ← H'.left_eq_without hexposed hvolumes]

theorem Visits.continues (H : Visits family (.ofInventory vendor) roles mid)
    (H' : Visits family mid roles' free) :
    Continues vendor (roles.map Prod.snd) (roles'.map Prod.snd)
      (outcome family vendor roles mid) (outcome family vendor (roles ++ roles') free) where
  volumes := by
    simp only [outcome, List.filterMap_append]
    exact List.prefix_append ..
  exposedDrives := by
    simp only [outcome, List.filterMap_append]
    exact List.prefix_append ..
  unconfigured_sublist := by
    have hsublist : ((leftoverEntries mid vendor).filter (Remains (roles'.map Prod.snd))).Sublist
        (leftoverEntries mid vendor) := List.filter_sublist
    have hdrives := hsublist.map Prod.fst
    rwa [← H.leftover_entries H', leftoverEntries_drives] at hdrives
  unconfigured_perm := by
    have hperm := H'.leftover_perm vendor
    rw [← exposedDrives_drives, ← volumes_members family] at hperm
    simpa only [outcome, List.filterMap_append, List.drop_left] using hperm
  unconfigured_before := by
    rw [leftoverEntries_drives, ← H.left_eq_unassigned]
    rfl
  unconfigured_after := by
    rw [← H.left_eq_unassigned]
    exact H.leftover_entries H'

/-- Matching more devices changes no role of the devices in front of them: their volumes and exposed
drives stay, those of the others follow, and from the leftover drives exactly those are gone that
are in the records which the others take. -/
theorem resolve_append (family : RaidFamily) (devices later : List BlockDevice)
    (vendor : Inventory) :
    ∃ before after : List Role, Stable family devices vendor before ∧
      Stable family (devices ++ later) vendor (before ++ after) ∧
      Resolution.resolve family devices vendor =
        assignmentOutcome family devices vendor before ∧
      Resolution.resolve family (devices ++ later) vendor =
        assignmentOutcome family (devices ++ later) vendor (before ++ after) ∧
      Continues vendor before after (Resolution.resolve family devices vendor)
        (Resolution.resolve family (devices ++ later) vendor) := by
  have hstable := stable_assign family (devices ++ later) vendor
  have houtcome := resolve_eq_assignmentOutcome family (devices ++ later) vendor
  have H := visits_assign family (.ofInventory vendor) devices
  have H' := visits_assign family (assign family (.ofInventory vendor) devices).2 later
  have hcontinues := H.continues H'
  rw [assign_append, List.map_append] at hstable houtcome
  refine ⟨_, _, stable_assign family devices vendor, hstable,
    resolve_eq_assignmentOutcome family devices vendor, houtcome, ?_⟩
  rw [resolve_eq_outcome, resolve_eq_outcome, assign_append]
  exact hcontinues

end StorageInventory.Matching
