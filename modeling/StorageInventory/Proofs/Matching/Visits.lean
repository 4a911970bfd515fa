import StorageInventory.Matching

/-!
# Matching as a relation

What a block device has in common with a record (`ShowsDrive`, `HasKey`), what one device takes from
one pool of free records (`Takes`) and from both (`Visit`), and what devices take one after another
(`Visits`), none of them said through the functions that compute it. Main statements: `assign`
computes `Visits` (`visits_assign`); the records taken and the records left are together the free
ones (`Visits.takenDrives_perm`, `Visits.takenVolumes_perm`); and a device passes over a record that
fits only for one in front of it (`Visits.exposed_priority`, `Visits.volume_priority`).
-/

namespace StorageInventory

namespace Role

/-- The exposed drive that the role takes, with its index. -/
def drive? : Role → Option (PhysicalDrive × Nat)
  | exposed d i => some (d, i)
  | volume _ _ | bare => none

/-- The volume that the role takes, with its index. -/
def volume? : Role → Option (VolumeRecord × Nat)
  | volume v i => some (v, i)
  | exposed _ _ | bare => none

theorem drive?_eq_some_iff {r : Role} : r.drive? = some (d, i) ↔ r = .exposed d i := by
  cases r <;> simp [drive?]

theorem volume?_eq_some_iff {r : Role} : r.volume? = some (v, i) ↔ r = .volume v i := by
  cases r <;> simp [volume?]

end Role

namespace Matching

/-! ## What a device and a record have in common -/

/-- The identifier is the device's SAS address or its world wide name. -/
def Carries (device : BlockDevice) (id : String) : Prop :=
  device.sasAddress = some id ∨ device.wwn = some id

/-- The device carries the identifier under which a controller of the family exposes the drive. -/
inductive ShowsDrive : RaidFamily → BlockDevice → PhysicalDrive → Prop
  | megaRaid {id : String} : d.ids.wwn = some id → Carries device id →
    ShowsDrive .megaRaid device d
  | sasIr {id : String} : d.ids.sasAddress = some id → Carries device id →
    ShowsDrive .sasIr device d
  | smartArray {id : String} : d.ids.sasAddress = some id → Carries device id →
    ShowsDrive .smartArray device d

/-- The key under which a tool of the family knows the device, if it is a volume. -/
inductive HasKey : RaidFamily → BlockDevice → VolumeKey → Prop
  | target : HasKey .megaRaid device (.target device.scsi.target)
  | sasAddress : device.sasAddress = some address → HasKey .sasIr device (.sasAddress address)
  | devicePath : HasKey .smartArray device (.devicePath ("/dev/" ++ device.name))

/-- A device has at most one key of its family. -/
theorem HasKey.unique (h : HasKey family device key) (h' : HasKey family device key') :
    key = key' := by
  cases h with
  | target => cases h'; rfl
  | sasAddress h =>
    cases h' with
    | sasAddress h' => rw [Option.some.inj (h.symm.trans h')]
  | devicePath => cases h'; rfl

theorem mem_deviceIds {id : String} : id ∈ deviceIds device ↔ Carries device id := by
  simp [deviceIds, Carries]

theorem isDrive_iff : isDrive family device d = true ↔ ShowsDrive family device d := by
  have hany : isDrive family device d = true ↔
      ∃ id, driveId? family d = some id ∧ Carries device id := by
    simp only [isDrive, Option.any_eq_true, List.contains_iff_mem, mem_deviceIds]
  rw [hany]
  constructor
  · rintro ⟨id, hid, hc⟩
    cases family with
    | megaRaid => exact .megaRaid hid hc
    | sasIr => exact .sasIr hid hc
    | smartArray => exact .smartArray hid hc
  · intro h
    cases h with
    | megaRaid hid hc | sasIr hid hc | smartArray hid hc => exact ⟨_, hid, hc⟩

/-- The key that is computed for a device is the one that it has. -/
theorem volumeKey?_eq_some_iff :
    volumeKey? family device = some key ↔ HasKey family device key := by
  constructor
  · intro h
    cases family with
    | megaRaid => cases h; exact .target
    | sasIr =>
      obtain ⟨address, ha, rfl⟩ := Option.map_eq_some_iff.mp h
      exact .sasAddress ha
    | smartArray => cases h; exact .devicePath
  · intro h
    cases h with
    | target | devicePath => rfl
    | sasAddress ha => simp [volumeKey?, ha]

theorem isVolume_iff : isVolume family device v = true ↔ HasKey family device v.key := by
  rw [isVolume, beq_iff_eq, volumeKey?_eq_some_iff]

/-! ## One pool -/

/-- From a pool of records, each with its index, the first one that fits is taken; none is when none
fits. The rest keeps its order. -/
inductive Takes (fits : α → Prop) : List (α × Nat) → Option (α × Nat) → List (α × Nat) → Prop
  | first : fits x.1 → (∀ y ∈ front, ¬fits y.1) →
    Takes fits (front ++ x :: back) (some x) (front ++ back)
  | nothing : (∀ y ∈ pool, ¬fits y.1) → Takes fits pool none pool

namespace Takes
variable {α : Type} {fits : α → Prop} {pool rest : List (α × Nat)} {taken : Option (α × Nat)}
  {x : α × Nat}

theorem of_take?_some {p : α × Nat → Bool} (hp : ∀ x, p x = true ↔ fits x.1)
    (h : Pool.take? p pool = some (x, rest)) : Takes fits pool (some x) rest := by
  obtain ⟨hx, front, back, rfl, rfl, hfront⟩ := Pool.take?_eq_some_iff.mp h
  refine .first ((hp x).mp hx) fun y hy hfits => ?_
  rw [← hp, hfront y hy] at hfits
  cases hfits

theorem of_take?_none {p : α × Nat → Bool} (hp : ∀ x, p x = true ↔ fits x.1)
    (h : Pool.take? p pool = none) : Takes fits pool none pool := by
  refine .nothing fun y hy hfits => ?_
  rw [← hp, Pool.take?_eq_none_iff.mp h y hy] at hfits
  cases hfits

theorem sublist (h : Takes fits pool taken rest) : rest.Sublist pool := by
  cases h with
  | first => exact (List.sublist_cons_self ..).append_left _
  | nothing => exact .refl _

theorem perm (h : Takes fits pool taken rest) : (taken.toList ++ rest).Perm pool := by
  cases h with
  | first =>
    rw [Option.toList_some, List.singleton_append]
    exact List.perm_middle.symm
  | nothing => exact .refl _

theorem fits_of_some (h : Takes fits pool (some x) rest) : fits x.1 := by
  cases h with | first hx => exact hx

/-- When a record of the pool fits, it is taken or one in front of it is. -/
theorem priority (h : Takes fits pool taken rest) (hsorted : pool.Pairwise (·.2 < ·.2))
    (hmem : x ∈ pool) (hfits : fits x.1) :
    ∃ y, taken = some y ∧ fits y.1 ∧ (y = x ∨ y.2 < x.2) := by
  cases h with
  | @first y front back hy hfront =>
    refine ⟨y, rfl, hy, ?_⟩
    rcases List.mem_append.mp hmem with hmem | hmem
    · exact absurd hfits (hfront x hmem)
    rcases List.mem_cons.mp hmem with rfl | hback
    · exact .inl rfl
    · exact .inr ((List.pairwise_cons.mp (List.pairwise_append.mp hsorted).2.1).1 x hback)
  | nothing hnone => exact absurd hfits (hnone x hmem)

end Takes

/-! ## One device -/

/-- A device takes a free record and gets its role: the first exposed drive that it shows; when it
shows none, the first volume of its key; and when there is none of these either, nothing. -/
inductive Visit (family : RaidFamily) (device : BlockDevice) : Free → Role → Free → Prop
  | exposed : Takes (ShowsDrive family device) exposed (some (d, i)) rest →
    Visit family device ⟨exposed, volumes⟩ (.exposed d i) ⟨rest, volumes⟩
  | volume : Takes (ShowsDrive family device) exposed none exposed →
    Takes (HasKey family device ·.key) volumes (some (v, i)) rest →
    Visit family device ⟨exposed, volumes⟩ (.volume v i) ⟨exposed, rest⟩
  | bare : Takes (ShowsDrive family device) exposed none exposed →
    Takes (HasKey family device ·.key) volumes none volumes →
    Visit family device ⟨exposed, volumes⟩ .bare ⟨exposed, volumes⟩

/-- One step of the assignment is a visit of its device. -/
theorem visit_role (family : RaidFamily) (free : Free) (device : BlockDevice) :
    Visit family device free (role family free device).1 (role family free device).2 := by
  obtain ⟨exposed, volumes⟩ := free
  cases hd : Pool.take? (fun x => isDrive family device x.1) exposed with
  | some taken =>
    simp only [role, hd]
    exact .exposed (.of_take?_some (fun _ => isDrive_iff) hd)
  | none =>
    have hnone : Takes (ShowsDrive family device) exposed none exposed :=
      .of_take?_none (fun _ => isDrive_iff) hd
    cases hv : Pool.take? (fun x => isVolume family device x.1) volumes with
    | some taken =>
      simp only [role, hd, hv]
      exact .volume hnone (.of_take?_some (fun _ => isVolume_iff) hv)
    | none =>
      simp only [role, hd, hv]
      exact .bare hnone (.of_take?_none (fun _ => isVolume_iff) hv)

namespace Visit

/-- Nothing comes back to the drives that are free. -/
theorem exposed_sublist (h : Visit family device free r free') :
    free'.exposed.Sublist free.exposed := by
  cases h with
  | exposed h => exact h.sublist
  | volume | bare => exact .refl _

theorem volumes_sublist (h : Visit family device free r free') :
    free'.volumes.Sublist free.volumes := by
  cases h with
  | volume _ h => exact h.sublist
  | exposed | bare => exact .refl _

theorem drive_perm (h : Visit family device free r free') :
    (r.drive?.toList ++ free'.exposed).Perm free.exposed := by
  cases h with
  | exposed h => exact h.perm
  | volume | bare => exact .refl _

theorem volume_perm (h : Visit family device free r free') :
    (r.volume?.toList ++ free'.volumes).Perm free.volumes := by
  cases h with
  | volume _ h => exact h.perm
  | exposed | bare => exact .refl _

theorem mem_exposed (h : Visit family device free r free') :
    (d, i) ∈ free.exposed ↔ r = .exposed d i ∨ (d, i) ∈ free'.exposed := by
  rw [← h.drive_perm.mem_iff, List.mem_append, Option.mem_toList, Role.drive?_eq_some_iff]

theorem mem_volumes (h : Visit family device free r free') :
    (v, i) ∈ free.volumes ↔ r = .volume v i ∨ (v, i) ∈ free'.volumes := by
  rw [← h.volume_perm.mem_iff, List.mem_append, Option.mem_toList, Role.volume?_eq_some_iff]

/-- A device that shows a free drive takes it or one in front of it. -/
theorem exposed_priority (h : Visit family device free r free')
    (hsorted : free.exposed.Pairwise (·.2 < ·.2)) (hfree : (d, i) ∈ free.exposed)
    (hshows : ShowsDrive family device d) :
    r = .exposed d i ∨ ∃ e j, r = .exposed e j ∧ j < i := by
  cases h with
  | exposed h =>
    obtain ⟨y, htaken, _, rfl | hlt⟩ := h.priority hsorted hfree hshows
    · cases htaken; exact .inl rfl
    · cases htaken; exact .inr ⟨_, _, rfl, hlt⟩
  | volume h | bare h =>
    obtain ⟨_, htaken, _⟩ := h.priority hsorted hfree hshows
    cases htaken

/-- A device that has the key of a free volume takes an exposed drive, the volume, or one of the
same key in front of it. -/
theorem volume_priority (h : Visit family device free r free')
    (hsorted : free.volumes.Pairwise (·.2 < ·.2)) (hfree : (v, i) ∈ free.volumes)
    (hkey : HasKey family device v.key) :
    (∃ d j, r = .exposed d j) ∨ r = .volume v i ∨
      ∃ w j, r = .volume w j ∧ w.key = v.key ∧ j < i := by
  cases h with
  | exposed => exact .inl ⟨_, _, rfl⟩
  | volume _ h =>
    obtain ⟨y, htaken, hy, rfl | hlt⟩ := h.priority hsorted hfree hkey
    · cases htaken; exact .inr (.inl rfl)
    · cases htaken; exact .inr (.inr ⟨_, _, rfl, hy.unique hkey, hlt⟩)
  | bare _ h =>
    obtain ⟨_, htaken, _⟩ := h.priority hsorted hfree hkey
    cases htaken

end Visit

/-! ## A list of devices -/

/-- Devices take records one after another, each from what those before it left. -/
inductive Visits (family : RaidFamily) : Free → List (BlockDevice × Role) → Free → Prop
  | nil : Visits family free [] free
  | cons : Visit family device free r mid → Visits family mid roles free' →
    Visits family free ((device, r) :: roles) free'

/-- The assignment is a run of visits, one for each device in order. -/
theorem visits_assign (family : RaidFamily) (free : Free) (devices : List BlockDevice) :
    Visits family free (assign family free devices).1 (assign family free devices).2 := by
  induction devices generalizing free with
  | nil => exact .nil
  | cons device devices ih => exact .cons (visit_role ..) (ih _)

@[simp] theorem assign_devices (family : RaidFamily) (free : Free) (devices : List BlockDevice) :
    (assign family free devices).1.map Prod.fst = devices := by
  induction devices generalizing free with
  | nil => rfl
  | cons device devices ih => simp [assign, ih]

/-- The exposed drives that devices take, with their indices. -/
def takenDrives (roles : List (BlockDevice × Role)) : List (PhysicalDrive × Nat) :=
  roles.filterMap (·.2.drive?)

/-- The volumes that devices take, with their indices. -/
def takenVolumes (roles : List (BlockDevice × Role)) : List (VolumeRecord × Nat) :=
  roles.filterMap (·.2.volume?)

@[simp] theorem takenDrives_cons :
    takenDrives ((device, r) :: roles) = r.drive?.toList ++ takenDrives roles := by
  cases r <;> rfl

@[simp] theorem takenVolumes_cons :
    takenVolumes ((device, r) :: roles) = r.volume?.toList ++ takenVolumes roles := by
  cases r <;> rfl

theorem mem_takenDrives :
    (d, i) ∈ takenDrives roles ↔ ∃ device, (device, .exposed d i) ∈ roles := by
  simp [takenDrives, Role.drive?_eq_some_iff]

theorem mem_takenVolumes :
    (v, i) ∈ takenVolumes roles ↔ ∃ device, (device, .volume v i) ∈ roles := by
  simp [takenVolumes, Role.volume?_eq_some_iff]

namespace Visits

theorem exposed_sublist (H : Visits family free roles free') :
    free'.exposed.Sublist free.exposed := by
  induction H with
  | nil => exact .refl _
  | cons h _ ih => exact ih.trans h.exposed_sublist

theorem volumes_sublist (H : Visits family free roles free') :
    free'.volumes.Sublist free.volumes := by
  induction H with
  | nil => exact .refl _
  | cons h _ ih => exact ih.trans h.volumes_sublist

/-- The exposed drives that are taken and those that are left are the free ones. -/
theorem takenDrives_perm (H : Visits family free roles free') :
    (takenDrives roles ++ free'.exposed).Perm free.exposed := by
  induction H with
  | nil => exact .refl _
  | cons h _ ih =>
    rw [takenDrives_cons, List.append_assoc]
    exact (ih.append_left _).trans h.drive_perm

/-- The volumes that are taken and those that are left are the free ones. -/
theorem takenVolumes_perm (H : Visits family free roles free') :
    (takenVolumes roles ++ free'.volumes).Perm free.volumes := by
  induction H with
  | nil => exact .refl _
  | cons h _ ih =>
    rw [takenVolumes_cons, List.append_assoc]
    exact (ih.append_left _).trans h.volume_perm

theorem exposed_of_mem (H : Visits family free roles free')
    (hmem : (device, .exposed d i) ∈ roles) : (d, i) ∈ free.exposed :=
  H.takenDrives_perm.subset (List.mem_append_left _ (mem_takenDrives.mpr ⟨device, hmem⟩))

theorem volume_of_mem (H : Visits family free roles free')
    (hmem : (device, .volume v i) ∈ roles) : (v, i) ∈ free.volumes :=
  H.takenVolumes_perm.subset (List.mem_append_left _ (mem_takenVolumes.mpr ⟨device, hmem⟩))

/-- The device of a role visited what those before it left. -/
theorem visit_of_mem (H : Visits family free roles free') (hmem : (device, r) ∈ roles) :
    ∃ mid mid', Visit family device mid r mid' := by
  induction H with
  | nil => cases hmem
  | cons h _ ih =>
    rcases List.mem_cons.mp hmem with heq | hmem
    · cases heq
      exact ⟨_, _, h⟩
    · exact ih hmem

/-- A drive is taken by a device that shows it. -/
theorem shows_of_mem (H : Visits family free roles free')
    (hmem : (device, .exposed d i) ∈ roles) : ShowsDrive family device d := by
  obtain ⟨_, _, h⟩ := H.visit_of_mem hmem
  cases h with | exposed h => exact h.fits_of_some

/-- A volume is taken by a device that has its key. -/
theorem hasKey_of_mem (H : Visits family free roles free')
    (hmem : (device, .volume v i) ∈ roles) : HasKey family device v.key := by
  obtain ⟨_, _, h⟩ := H.visit_of_mem hmem
  cases h with | volume _ h => exact h.fits_of_some

/-- First come, first served: a drive that a device shows is taken by a device up to it, or the
device takes a drive in front of it. -/
theorem exposed_priority {n : Nat} {r : Role} (H : Visits family free roles free')
    (hsorted : free.exposed.Pairwise (·.2 < ·.2)) (hfree : (d, i) ∈ free.exposed)
    (hn : roles[n]? = some (device, r)) (hshows : ShowsDrive family device d) :
    (∃ m ≤ n, roles[m]?.map Prod.snd = some (.exposed d i)) ∨
      ∃ e j, r = .exposed e j ∧ j < i := by
  -- A record that the first device leaves is free for the others, whose positions are one less.
  induction H generalizing n with
  | nil => cases hn
  | cons h _ ih =>
    cases n with
    | zero =>
      cases hn
      rcases h.exposed_priority hsorted hfree hshows with rfl | htaken
      · exact .inl ⟨0, Nat.le_refl _, rfl⟩
      · exact .inr htaken
    | succ n =>
      rcases h.mem_exposed.mp hfree with rfl | hleft
      · exact .inl ⟨0, Nat.zero_le _, rfl⟩
      rcases ih (hsorted.sublist h.exposed_sublist) hleft hn with ⟨m, hm, htaken⟩ | htaken
      · exact .inl ⟨m + 1, Nat.succ_le_succ hm, htaken⟩
      · exact .inr htaken

/-- A volume whose key a device has is taken by a device up to it, or the device takes an exposed
drive or a volume of the same key in front of it. -/
theorem volume_priority {n : Nat} {r : Role} (H : Visits family free roles free')
    (hsorted : free.volumes.Pairwise (·.2 < ·.2)) (hfree : (v, i) ∈ free.volumes)
    (hn : roles[n]? = some (device, r)) (hkey : HasKey family device v.key) :
    (∃ m ≤ n, roles[m]?.map Prod.snd = some (.volume v i)) ∨ (∃ d j, r = .exposed d j) ∨
      ∃ w j, r = .volume w j ∧ w.key = v.key ∧ j < i := by
  induction H generalizing n with
  | nil => cases hn
  | cons h _ ih =>
    cases n with
    | zero =>
      cases hn
      rcases h.volume_priority hsorted hfree hkey with htaken | rfl | htaken
      · exact .inr (.inl htaken)
      · exact .inl ⟨0, Nat.le_refl _, rfl⟩
      · exact .inr (.inr htaken)
    | succ n =>
      rcases h.mem_volumes.mp hfree with rfl | hleft
      · exact .inl ⟨0, Nat.zero_le _, rfl⟩
      rcases ih (hsorted.sublist h.volumes_sublist) hleft hn with ⟨m, hm, htaken⟩ | htaken
      · exact .inl ⟨m + 1, Nat.succ_le_succ hm, htaken⟩
      · exact .inr htaken

end Visits

end Matching

end StorageInventory
