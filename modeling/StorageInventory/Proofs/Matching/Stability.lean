import StorageInventory.Proofs.Matching.Conservation

/-!
# Stability of matching

`Stable` says of roles, given to devices by position, that they are a sound, exclusive, prioritised
and complete assignment of records to devices, without a word about how they are found. Main
statement: every resolution is that of a stable assignment (`resolve_stable`).
-/

namespace StorageInventory.Matching

/-- An assignment of roles to devices, both by position. Records are told apart by their index in
the inventory, so equal records and equal devices count one by one. -/
structure Stable (family : RaidFamily) (devices : List BlockDevice) (vendor : Inventory)
    (roles : List Role) : Prop where
  length_eq : roles.length = devices.length
  /-- A device is an exposed drive of the inventory only if it shows the drive's identifier. -/
  exposed_sound : ∀ {n : Nat} {device d i}, devices[n]? = some device →
    roles[n]? = some (.exposed d i) → vendor.exposed[i]? = some d ∧ ShowsDrive family device d
  /-- A device is a volume of the inventory only if it has the volume's key. -/
  volume_sound : ∀ {n : Nat} {device v i}, devices[n]? = some device →
    roles[n]? = some (.volume v i) → vendor.volumes[i]? = some v ∧ HasKey family device v.key
  /-- No two devices are one exposed drive. -/
  exposed_exclusive : ∀ {m n : Nat} {d e i}, roles[m]? = some (.exposed d i) →
    roles[n]? = some (.exposed e i) → m = n
  /-- No two devices are one volume. -/
  volume_exclusive : ∀ {m n : Nat} {v w i}, roles[m]? = some (.volume v i) →
    roles[n]? = some (.volume w i) → m = n
  /-- A drive that a device shows goes to a device up to it, or the device is a drive in front. -/
  exposed_priority : ∀ {n : Nat} {device r d i}, devices[n]? = some device → roles[n]? = some r →
    vendor.exposed[i]? = some d → ShowsDrive family device d →
    (∃ m ≤ n, roles[m]? = some (.exposed d i)) ∨ ∃ e j, r = .exposed e j ∧ j < i
  /-- A volume whose key a device has goes to a device up to it, or the device is an exposed drive
  or a volume of the same key in front. -/
  volume_priority : ∀ {n : Nat} {device r v i}, devices[n]? = some device → roles[n]? = some r →
    vendor.volumes[i]? = some v → HasKey family device v.key →
    (∃ m ≤ n, roles[m]? = some (.volume v i)) ∨ (∃ d j, r = .exposed d j) ∨
      ∃ w j, r = .volume w j ∧ w.key = v.key ∧ j < i
  /-- Every device that shows a drive which no device is, is an exposed drive in front of it. -/
  exposed_complete : ∀ {n : Nat} {device r d i}, devices[n]? = some device → roles[n]? = some r →
    vendor.exposed[i]? = some d → .exposed d i ∉ roles → ShowsDrive family device d →
    ∃ e j, r = .exposed e j ∧ j < i
  /-- Every device that has the key of a volume which no device is, is an exposed drive or a volume
  of the same key in front of it. -/
  volume_complete : ∀ {n : Nat} {device r v i}, devices[n]? = some device → roles[n]? = some r →
    vendor.volumes[i]? = some v → .volume v i ∉ roles → HasKey family device v.key →
    (∃ d j, r = .exposed d j) ∨ ∃ w j, r = .volume w j ∧ w.key = v.key ∧ j < i
  /-- A bare device has the key of no volume that is left. -/
  bare_complete : ∀ {n : Nat} {device v i}, devices[n]? = some device → roles[n]? = some .bare →
    vendor.volumes[i]? = some v → .volume v i ∉ roles → ¬HasKey family device v.key

/-- The free records without those that are in a role. -/
def Free.without (free : Free) (roles : List Role) : Free where
  exposed := free.exposed.filter fun x => .exposed x.1 x.2 ∉ roles
  volumes := free.volumes.filter fun x => .volume x.1 x.2 ∉ roles

/-- The records that are in no role. -/
def unassigned (vendor : Inventory) (roles : List Role) : Free where
  exposed := vendor.exposed.zipIdx.filter fun x => .exposed x.1 x.2 ∉ roles
  volumes := vendor.volumes.zipIdx.filter fun x => .volume x.1 x.2 ∉ roles

/-- The resolution that an assignment amounts to. -/
def assignmentOutcome (family : RaidFamily) (devices : List BlockDevice) (vendor : Inventory)
    (roles : List Role) : Resolution :=
  outcome family vendor (devices.zip roles) (unassigned vendor roles)

/-! ## Indices of records -/

theorem zipIdx_pairwise (l : List α) : l.zipIdx.Pairwise (·.2 < ·.2) := by
  have h : (l.zipIdx.map Prod.snd).Pairwise (· < ·) := by
    rw [List.zipIdx_map_snd]
    exact List.pairwise_lt_range'
  exact List.pairwise_map.mp h

theorem zipIdx_nodup (l : List α) : l.zipIdx.Nodup := by
  refine (zipIdx_pairwise l).imp ?_
  rintro x _ hlt rfl
  exact Nat.lt_irrefl _ hlt

/-- Records taken from a list have different indices. -/
theorem taken_nodup {taken left : List (α × Nat)} {l : List α}
    (hperm : (taken ++ left).Perm l.zipIdx) : (taken.map Prod.snd).Nodup := by
  have hindices := hperm.map Prod.snd
  rw [List.map_append, List.zipIdx_map_snd] at hindices
  exact (List.nodup_append.mp (hindices.nodup_iff.mpr List.nodup_range')).1

/-- What is left of a list without repetitions, when some of it is taken. -/
theorem eq_filter_of_perm [BEq α] [LawfulBEq α] {taken left l : List α} (hsub : left.Sublist l)
    (hperm : (taken ++ left).Perm l) (hnd : l.Nodup) : left = l.filter (· ∉ taken) := by
  have hdisjoint : ∀ x ∈ left, x ∉ taken := by
    intro x hleft htaken
    have hboth := hperm.nodup_iff.mpr hnd
    exact (List.nodup_append.mp hboth).2.2 x htaken x hleft rfl
  have hself : left.filter (· ∉ taken) = left := by
    rw [List.filter_eq_self]
    exact fun x hx => decide_eq_true (hdisjoint x hx)
  have hnil : taken.filter (· ∉ taken) = [] := by
    rw [List.filter_eq_nil_iff]
    exact fun x hx hnot => of_decide_eq_true hnot hx
  have hlength : left.length = (l.filter (· ∉ taken)).length := by
    rw [← (hperm.filter _).length_eq, List.filter_append, hnil, hself, List.nil_append]
  have hfilter := hsub.filter (· ∉ taken)
  rw [hself] at hfilter
  exact hfilter.eq_of_length hlength

/-- Roles whose records have indices without repetitions are told apart by them. -/
theorem eq_of_taken {m n : Nat} {f : BlockDevice × Role → Option (α × Nat)}
    {roles : List (BlockDevice × Role)} (hnd : ((roles.filterMap f).map Prod.snd).Nodup)
    (hm : roles[m]? = some x) (hn : roles[n]? = some y) (hx : f x = some (a, i))
    (hy : f y = some (b, i)) : m = n := by
  have hpairs : roles.Pairwise fun x y =>
      ∀ s, f x = some s → ∀ t, f y = some t → s.2 ≠ t.2 :=
    List.pairwise_filterMap.mp (List.pairwise_map.mp hnd)
  obtain ⟨hmlt, rfl⟩ := List.getElem?_eq_some_iff.mp hm
  obtain ⟨hnlt, rfl⟩ := List.getElem?_eq_some_iff.mp hn
  have hlt := List.pairwise_iff_getElem.mp hpairs
  rcases Nat.lt_trichotomy m n with h | h | h
  · exact (hlt m n hmlt hnlt h _ hx _ hy rfl).elim
  · exact h
  · exact (hlt n m hnlt hmlt h _ hy _ hx rfl).elim

theorem getElem?_pair {roles : List (BlockDevice × Role)} {n : Nat}
    (hd : (roles.map Prod.fst)[n]? = some device) (hr : (roles.map Prod.snd)[n]? = some r) :
    roles[n]? = some (device, r) := by
  rw [List.getElem?_map, Option.map_eq_some_iff] at hd hr
  obtain ⟨x, hx, rfl⟩ := hd
  obtain ⟨y, hy, rfl⟩ := hr
  cases hx.symm.trans hy
  exact hx

namespace Visits

theorem stable (H : Visits family (.ofInventory vendor) roles free) :
    Stable family (roles.map Prod.fst) vendor (roles.map Prod.snd) where
  length_eq := by rw [List.length_map, List.length_map]
  exposed_sound hd hr := by
    have hmem := List.mem_of_getElem? (getElem?_pair hd hr)
    exact ⟨List.mk_mem_zipIdx_iff_getElem?.mp (H.exposed_of_mem hmem), H.shows_of_mem hmem⟩
  volume_sound hd hr := by
    have hmem := List.mem_of_getElem? (getElem?_pair hd hr)
    exact ⟨List.mk_mem_zipIdx_iff_getElem?.mp (H.volume_of_mem hmem), H.hasKey_of_mem hmem⟩
  exposed_exclusive hm hn := by
    rw [List.getElem?_map, Option.map_eq_some_iff] at hm hn
    obtain ⟨⟨_, _⟩, hm, rfl⟩ := hm
    obtain ⟨⟨_, _⟩, hn, rfl⟩ := hn
    exact eq_of_taken (taken_nodup H.takenDrives_perm) hm hn rfl rfl
  volume_exclusive hm hn := by
    rw [List.getElem?_map, Option.map_eq_some_iff] at hm hn
    obtain ⟨⟨_, _⟩, hm, rfl⟩ := hm
    obtain ⟨⟨_, _⟩, hn, rfl⟩ := hn
    exact eq_of_taken (taken_nodup H.takenVolumes_perm) hm hn rfl rfl
  exposed_priority hd hr hv hshows := by
    simp only [List.getElem?_map]
    exact H.exposed_priority (zipIdx_pairwise _) (List.mk_mem_zipIdx_iff_getElem?.mpr hv)
      (getElem?_pair hd hr) hshows
  volume_priority hd hr hv hkey := by
    simp only [List.getElem?_map]
    exact H.volume_priority (zipIdx_pairwise _) (List.mk_mem_zipIdx_iff_getElem?.mpr hv)
      (getElem?_pair hd hr) hkey
  exposed_complete hd hr hv hfree hshows := by
    rcases H.exposed_priority (zipIdx_pairwise _) (List.mk_mem_zipIdx_iff_getElem?.mpr hv)
      (getElem?_pair hd hr) hshows with ⟨m, _, hm⟩ | htaken
    · rw [← List.getElem?_map] at hm
      exact absurd (List.mem_of_getElem? hm) hfree
    · exact htaken
  volume_complete hd hr hv hfree hkey := by
    rcases H.volume_priority (zipIdx_pairwise _) (List.mk_mem_zipIdx_iff_getElem?.mpr hv)
      (getElem?_pair hd hr) hkey with ⟨m, _, hm⟩ | htaken
    · rw [← List.getElem?_map] at hm
      exact absurd (List.mem_of_getElem? hm) hfree
    · exact htaken
  bare_complete hd hr hv hfree hkey := by
    rcases H.volume_priority (zipIdx_pairwise _) (List.mk_mem_zipIdx_iff_getElem?.mpr hv)
      (getElem?_pair hd hr) hkey with ⟨m, _, hm⟩ | ⟨_, _, hbare⟩ | ⟨_, _, hbare, _⟩
    · rw [← List.getElem?_map] at hm
      exact absurd (List.mem_of_getElem? hm) hfree
    · cases hbare
    · cases hbare

/-- What visits leave of records without repetitions is what no role has. -/
theorem left_eq_without (H : Visits family free roles free') (hexposed : free.exposed.Nodup)
    (hvolumes : free.volumes.Nodup) : free' = free.without (roles.map Prod.snd) := by
  obtain ⟨exposed, volumes⟩ := free'
  have hd : exposed = free.exposed.filter (· ∉ takenDrives roles) :=
    eq_filter_of_perm H.exposed_sublist H.takenDrives_perm hexposed
  have hv : volumes = free.volumes.filter (· ∉ takenVolumes roles) :=
    eq_filter_of_perm H.volumes_sublist H.takenVolumes_perm hvolumes
  rw [Free.without, Free.mk.injEq, hd, hv]
  constructor
  · refine List.filter_congr ?_
    rintro ⟨d, i⟩ _
    simp [mem_takenDrives]
  · refine List.filter_congr ?_
    rintro ⟨v, i⟩ _
    simp [mem_takenVolumes]

theorem left_eq_unassigned (H : Visits family (.ofInventory vendor) roles free) :
    free = unassigned vendor (roles.map Prod.snd) :=
  H.left_eq_without (zipIdx_nodup _) (zipIdx_nodup _)

end Visits

theorem stable_assign (family : RaidFamily) (devices : List BlockDevice) (vendor : Inventory) :
    Stable family devices vendor
      ((assign family (.ofInventory vendor) devices).1.map Prod.snd) := by
  have hstable := (visits_assign family (.ofInventory vendor) devices).stable
  rwa [assign_devices] at hstable

/-- A resolution is the one of the roles that its devices have. -/
theorem resolve_eq_assignmentOutcome (family : RaidFamily) (devices : List BlockDevice)
    (vendor : Inventory) :
    Resolution.resolve family devices vendor = assignmentOutcome family devices vendor
      ((assign family (.ofInventory vendor) devices).1.map Prod.snd) := by
  have H := visits_assign family (.ofInventory vendor) devices
  have hdevices := assign_devices family (.ofInventory vendor) devices
  rw [resolve_eq_outcome, assignmentOutcome, ← List.zip_of_prod hdevices rfl,
    ← H.left_eq_unassigned]

/-- Matching finds a stable assignment, and its resolution is the one of that assignment. -/
theorem resolve_stable (family : RaidFamily) (devices : List BlockDevice) (vendor : Inventory) :
    ∃ roles : List Role, Stable family devices vendor roles ∧
      Resolution.resolve family devices vendor =
        assignmentOutcome family devices vendor roles :=
  ⟨_, stable_assign family devices vendor, resolve_eq_assignmentOutcome family devices vendor⟩

end StorageInventory.Matching
