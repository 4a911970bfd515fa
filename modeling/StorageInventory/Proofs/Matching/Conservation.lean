import StorageInventory.Proofs.Matching.Visits

/-!
# Conservation under matching

Matching moves records, it does not make, lose or change any. Main statements: the drives of a
resolution are those of the inventory (`resolve_drives_perm`), and its block devices are those that
were matched, in their order, each with the data of one record (`resolve_devices`).
-/

namespace StorageInventory

/-- All drive records of a resolution. -/
def Resolution.drives (r : Resolution) : List PhysicalDrive :=
  r.volumes.flatMap (·.members) ++ r.exposedDrives.map (·.drive) ++ r.unconfiguredDrives

/-- Whether the role is that of an exposed drive. -/
def Role.isExposed : Role → Bool
  | exposed _ _ => true
  | volume _ _ | bare => false

namespace Matching

/-- The resolution that roles of devices and the records left by them amount to. -/
def outcome (family : RaidFamily) (vendor : Inventory) (roles : List (BlockDevice × Role))
    (free : Free) : Resolution where
  volumes := roles.filterMap (volume? family)
  exposedDrives := roles.filterMap exposedDrive?
  unconfiguredDrives := leftover free vendor

theorem resolve_eq_outcome (family : RaidFamily) (devices : List BlockDevice)
    (vendor : Inventory) :
    Resolution.resolve family devices vendor =
      outcome family vendor (assign family (.ofInventory vendor) devices).1
        (assign family (.ofInventory vendor) devices).2 := rfl

/-! ## Drives -/

theorem volumes_members (family : RaidFamily) (roles : List (BlockDevice × Role)) :
    (roles.filterMap (volume? family)).flatMap (·.members) =
      (takenVolumes roles).flatMap (·.1.members) := by
  induction roles with
  | nil => rfl
  | cons x roles ih =>
    obtain ⟨device, r⟩ := x
    cases r <;> simp [List.filterMap_cons, volume?, Role.volume?, merged, Volume.bare, ih]

theorem exposedDrives_drives (roles : List (BlockDevice × Role)) :
    (roles.filterMap exposedDrive?).map (·.drive) = (takenDrives roles).map (·.1) := by
  induction roles with
  | nil => rfl
  | cons x roles ih =>
    obtain ⟨device, r⟩ := x
    cases r <;> simp [List.filterMap_cons, exposedDrive?, Role.drive?, ih]

/-- The drives of an inventory, read off the records that a device may take. -/
theorem drives_ofInventory (vendor : Inventory) :
    vendor.drives = (Free.ofInventory vendor).volumes.flatMap (·.1.members) ++
      (Free.ofInventory vendor).exposed.map (·.1) ++ vendor.unconfigured := by
  have hv : vendor.volumes.zipIdx.flatMap (·.1.members) = vendor.volumes.flatMap (·.members) := by
    rw [← List.flatMap_map (f := Prod.fst) (g := VolumeRecord.members), List.zipIdx_map_fst]
  have hd : vendor.exposed.zipIdx.map (·.1) = vendor.exposed := List.zipIdx_map_fst ..
  simp only [Free.ofInventory, hv, hd, Inventory.drives]

theorem Visits.drives_perm (H : Visits family (.ofInventory vendor) roles free) :
    (outcome family vendor roles free).drives.Perm vendor.drives := by
  have hv := H.takenVolumes_perm.flatMap_right (·.1.members)
  have hd := H.takenDrives_perm.map (·.1)
  rw [List.flatMap_append] at hv
  rw [List.map_append] at hd
  rw [drives_ofInventory]
  refine .trans ?_ ((hv.append hd).append_right _)
  simp only [Resolution.drives, outcome, leftover, volumes_members, exposedDrives_drives]
  rw [List.perm_iff_count]
  intro d
  simp only [List.count_append]
  omega

/-- Every drive record of an inventory is in exactly one place of its resolution, unchanged and as
often as the inventory has it. -/
theorem resolve_drives_perm (family : RaidFamily) (devices : List BlockDevice)
    (vendor : Inventory) :
    (Resolution.resolve family devices vendor).drives.Perm vendor.drives :=
  (visits_assign ..).drives_perm

/-! ## Block devices -/

theorem exposedDrives_kernel (roles : List (BlockDevice × Role)) :
    (roles.filterMap exposedDrive?).map (·.kernel) =
      (((roles.map Prod.fst).zip (roles.map (·.2.isExposed))).filter (·.2)).map Prod.fst := by
  induction roles with
  | nil => rfl
  | cons x roles ih =>
    obtain ⟨device, r⟩ := x
    cases r <;> simp [List.filterMap_cons, exposedDrive?, Role.isExposed, ih]

theorem volumes_kernel (family : RaidFamily) (roles : List (BlockDevice × Role)) :
    (roles.filterMap (volume? family)).map (·.kernel) =
      (((roles.map Prod.fst).zip (roles.map (·.2.isExposed))).filter (!·.2)).map Prod.fst := by
  induction roles with
  | nil => rfl
  | cons x roles ih =>
    obtain ⟨device, r⟩ := x
    cases r <;> simp [List.filterMap_cons, volume?, Role.isExposed, merged, Volume.bare, ih]

namespace Visits

theorem drive_of_mem (H : Visits family (.ofInventory vendor) roles free)
    (hmem : e ∈ roles.filterMap exposedDrive?) : e.drive ∈ vendor.exposed := by
  obtain ⟨⟨device, r⟩, hr, he⟩ := List.mem_filterMap.mp hmem
  cases r with
  | exposed d i =>
    cases he
    have hd : (d, i) ∈ vendor.exposed.zipIdx := H.exposed_of_mem hr
    exact List.mem_of_getElem? (List.mk_mem_zipIdx_iff_getElem?.mp hd)
  | volume | bare => cases he

/-- A volume is either bare or merged with one record of the inventory. -/
theorem volume_cases (H : Visits family (.ofInventory vendor) roles free)
    (hmem : v ∈ roles.filterMap (volume? family)) :
    (∃ device, v = .bare device) ∨
      ∃ device, ∃ record ∈ vendor.volumes, v = merged family device record := by
  obtain ⟨⟨device, r⟩, hr, hv⟩ := List.mem_filterMap.mp hmem
  cases r with
  | exposed => cases hv
  | volume record i =>
    cases hv
    have hrecord : (record, i) ∈ vendor.volumes.zipIdx := H.volume_of_mem hr
    exact .inr ⟨device, record,
      List.mem_of_getElem? (List.mk_mem_zipIdx_iff_getElem?.mp hrecord), rfl⟩
  | bare =>
    cases hv
    exact .inl ⟨device, rfl⟩

end Visits

/-- The devices of a resolution are those that were matched, each in one of two lists and both lists
in their order. An exposed drive has a record of the inventory, and a volume has either no data or
the data of one record alone. -/
theorem resolve_devices (family : RaidFamily) (devices : List BlockDevice) (vendor : Inventory) :
    let r := Resolution.resolve family devices vendor
    (∃ exposed : List Bool, exposed.length = devices.length ∧
      r.exposedDrives.map (·.kernel) = ((devices.zip exposed).filter (·.2)).map Prod.fst ∧
      r.volumes.map (·.kernel) = ((devices.zip exposed).filter (!·.2)).map Prod.fst) ∧
    (∀ e ∈ r.exposedDrives, e.drive ∈ vendor.exposed) ∧
    ∀ v ∈ r.volumes, (v.data = none ∧ v.members = []) ∨
      ∃ record ∈ vendor.volumes, v.members = record.members ∧ v.data = some {
        level := record.level
        status := record.status
        cachePolicy := record.cachePolicy
        stripeSize := record.stripeSize
        label := record.label
        degraded := !family.goodVolumeStatus record.status } := by
  intro r
  have H := visits_assign family (.ofInventory vendor) devices
  have hdevices := assign_devices family (.ofInventory vendor) devices
  refine ⟨⟨(assign family (.ofInventory vendor) devices).1.map (·.2.isExposed), ?_, ?_, ?_⟩,
    fun e he => H.drive_of_mem he, fun v hv => ?_⟩
  · rw [List.length_map, ← hdevices, List.length_map, hdevices]
  · have h := exposedDrives_kernel (assign family (.ofInventory vendor) devices).1
    rwa [hdevices] at h
  · have h := volumes_kernel family (assign family (.ofInventory vendor) devices).1
    rwa [hdevices] at h
  · rcases H.volume_cases hv with ⟨device, rfl⟩ | ⟨device, record, hrecord, rfl⟩
    · exact .inl ⟨rfl, rfl⟩
    · exact .inr ⟨record, hrecord, rfl, rfl⟩

end Matching

end StorageInventory
