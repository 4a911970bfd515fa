import Mathlib.Data.List.Nodup
import Mathlib.Data.List.Pairwise
import StorageInventory.Kernel.PciBus
import StorageInventory.Proofs.FileTree.Reordering
import StorageInventory.Proofs.Kernel.ClassEntries
import StorageInventory.Proofs.Trace.Outcomes

/-!
# The order in which directories list

What is found below a controller and on the bus is sorted by a key that no two of the items share,
so that it does not depend on the order in which a directory lists them (`listing_order`). A scan
fails for one of the entries whatever stands in front of it (`blockDevices_toOption`).
-/

namespace StorageInventory

/-! ## Sorting by a key -/

namespace Listing
variable {cmp : β → β → Ordering} {key : α → β} {xs ys : List α}

theorem pairwise_mergeSort [Std.TransCmp cmp] (key : α → β) (xs : List α) :
    (xs.mergeSort fun a b => (cmp (key a) (key b)).isLE).Pairwise
      fun a b => (cmp (key a) (key b)).isLE = true := by
  refine List.pairwise_mergeSort (fun a b c => Std.TransCmp.isLE_trans) (fun a b => ?_) xs
  have hswap : cmp (key b) (key a) = (cmp (key a) (key b)).swap := Std.OrientedCmp.eq_swap
  rw [hswap]
  cases cmp (key a) (key b) <;> rfl

/-- Items of distinct keys are sorted strictly. -/
theorem mergeSort_strict [Std.TransCmp cmp] [Std.LawfulEqCmp cmp] (h : (xs.map key).Nodup) :
    (xs.mergeSort fun a b => (cmp (key a) (key b)).isLE).Pairwise
      fun a b => cmp (key a) (key b) = .lt := by
  have hnodup : ((xs.mergeSort fun a b => (cmp (key a) (key b)).isLE).map key).Nodup :=
    ((List.mergeSort_perm xs _).map key).nodup_iff.mpr h
  rw [List.Nodup, List.pairwise_map] at hnodup
  refine ((pairwise_mergeSort key xs).and hnodup).imp ?_
  rintro a b ⟨hle, hne⟩
  rcases Ordering.isLE_iff_eq_lt_or_eq_eq.mp hle with hlt | heq
  · exact hlt
  · exact absurd (Std.LawfulEqCmp.eq_of_compare heq) hne

/-- Items of distinct keys have one order. -/
theorem mergeSort_eq_of_perm [Std.TransCmp cmp] [Std.LawfulEqCmp cmp] (h : (xs.map key).Nodup)
    (hperm : ys.Perm xs) :
    (ys.mergeSort fun a b => (cmp (key a) (key b)).isLE) =
      xs.mergeSort fun a b => (cmp (key a) (key b)).isLE := by
  refine List.Perm.eq_of_pairwise ?_ (pairwise_mergeSort key ys) (pairwise_mergeSort key xs)
    ((List.mergeSort_perm ys _).trans (hperm.trans (List.mergeSort_perm xs _).symm))
  intro a b ha hb hab hba
  have ha : a ∈ xs := hperm.mem_iff.mp (List.mem_mergeSort.mp ha)
  have hb : b ∈ xs := List.mem_mergeSort.mp hb
  exact List.inj_on_of_nodup_map h ha hb
    (Std.LawfulEqCmp.eq_of_compare (Std.OrientedCmp.isLE_antisymm hab hba))

end Listing

/-! ## Orders -/

instance : Std.TransCmp PciAddress.order :=
  inferInstanceAs (Std.TransCmp (compareLex (compareOn PciAddress.domain)
    (compareLex (compareOn PciAddress.bus)
      (compareLex (compareOn PciAddress.device) (compareOn PciAddress.function)))))

instance : Std.LawfulEqCmp PciAddress.order where
  eq_of_compare {a b} h := by
    simp only [PciAddress.order, Ordering.then_eq_eq, Std.compare_eq_iff_eq] at h
    cases a
    cases b
    simp_all

namespace Kernel

instance : Std.TransCmp nameOrder :=
  inferInstanceAs (Std.TransCmp (compareLex (compareOn String.utf8ByteSize) compare))

instance : Std.LawfulEqCmp nameOrder where
  eq_of_compare h := by
    simp only [nameOrder, Ordering.then_eq_eq, Std.compare_eq_iff_eq] at h
    exact h.2

open FileTree (Reordered)
variable {t t' : FileTree} {log : Logger} {scsiOnly : Bool} {class_ name : String} {top : Place}

/-! ## Reading in another order -/

theorem attribute?_reordered (h : Reordered t t') : attribute? t' = attribute? t := by
  funext base name
  unfold attribute?
  rw [h.read_eq]

theorem number_reordered (h : Reordered t t') : number t' = number t := by
  funext base name
  simp only [number, number?, attribute?_reordered h]

theorem linkedName_reordered (h : Reordered t t') : linkedName t' = linkedName t := by
  funext base name
  simp only [linkedName, h.linkTarget?_eq]

/-- What is read of a block device stands in files and links, which have one place in both orders.
-/
theorem blockDevice_reordered (h : Reordered t t') : blockDevice log t' = blockDevice log t := by
  funext scsiOnly b
  simp only [blockDevice, attributeText, attribute?_reordered h, number_reordered h,
    linkedName_reordered h]

theorem classEntry_reordered (h : Reordered t t') : classEntry log t' = classEntry log t := by
  funext scsiOnly class_ name
  unfold classEntry
  rw [h.place_eq, h.holds_eq]

theorem errorRecords_reordered (h : Reordered t t') : errorRecords t' = errorRecords t := by
  funext device file
  unfold errorRecords
  rw [attribute?_reordered h]

theorem pciDevice?_reordered (h : Reordered t t') : pciDevice? t' = pciDevice? t := by
  funext address path
  simp only [pciDevice?, attribute?_reordered h, number_reordered h, linkedName_reordered h,
    errorRecords_reordered h]

/-! ## Block devices -/

/-- An entry of the class directory leads to a whole block device below a place, on a SCSI bus when
only those count. -/
inductive LeadsBelow (t : FileTree) (scsiOnly : Bool) (class_ : String) (top : Place)
    (name : String) (b : BlockPlace) : Prop
  | intro : t.place (Path.join class_ name) = .ok place →
    t.holds (Path.join (Path.ofPlace place) "partition") = false →
    (scsiOnly = true → isScsi place = true) → BlockPlace.ofPlace? place = some b →
    b.device ≠ [] → top <+: b.device → LeadsBelow t scsiOnly class_ top name b

/-- The entries that a scan keeps are those that lead below the controller. -/
theorem entryBelow_iff : entryBelow log t scsiOnly class_ top name = some b ↔
    LeadsBelow t scsiOnly class_ top name b := by
  have hscsi (place : Place) :
      (scsiOnly && !isScsi place) = false ↔ (scsiOnly = true → isScsi place = true) := by
    cases scsiOnly <;> simp
  rw [entryBelow_eq_some_iff]
  constructor
  · rintro ⟨place, hplace, hpartition, hkept, hb, hdevice, htop⟩
    exact ⟨hplace, hpartition, (hscsi place).mp hkept, hb, hdevice, htop⟩
  · rintro ⟨hplace, hpartition, hkept, hb, hdevice, htop⟩
    exact ⟨_, hplace, hpartition, (hscsi _).mpr hkept, hb, hdevice, htop⟩

/-- The block device that an entry leads to, when it can be read. -/
def deviceBelow? (log : Logger) (t : FileTree) (scsiOnly : Bool) (class_ : String) (top : Place)
    (name : String) : Option BlockDevice :=
  (entryBelow log t scsiOnly class_ top name).bind fun b =>
    (blockDevice log t scsiOnly b).outcome.toOption

/-- Whether an entry leads to no block device, or to one that can be read. -/
def isReadable (log : Logger) (t : FileTree) (scsiOnly : Bool) (class_ : String) (top : Place)
    (name : String) : Bool :=
  (entryBelow log t scsiOnly class_ top name).all fun b =>
    (blockDevice log t scsiOnly b).outcome.toOption.isSome

/-- A scan gives the block devices of all entries, or fails for one of them. -/
theorem blockDevices_toOption (hroot : Path.join root "class/block" = class_)
    (hclass : t.isDirectory class_ = true) (hcontroller : t.isDirectory controller = true)
    (htop : t.place controller = .ok top) (log : Logger) (scsiOnly : Bool) :
    (blockDevices log t root controller scsiOnly).outcome.toOption =
      if (t.list class_).all (isReadable log t scsiOnly class_ top) then
        some (((t.list class_).filterMap (deviceBelow? log t scsiOnly class_ top)).mergeSort
          fun a b => (nameOrder a.name b.name).isLE)
      else none := by
  rw [blockDevices_outcome hroot hclass hcontroller htop, Attempt.toOption_map,
    Attempt.outcome_mapM, Attempt.mapM_toOption, List.all_filterMap, List.filterMap_filterMap,
    apply_ite (Option.map _)]
  rfl

theorem blockDevices_fails (h : ¬(t.isDirectory controller = true ∧
      t.isDirectory (Path.join root "class/block") = true)) (log : Logger) (scsiOnly : Bool) :
    (blockDevices log t root controller scsiOnly).outcome.toOption = none := by
  unfold blockDevices
  dsimp only
  split
  · rename_i hcontroller htop
    have hclass := (not_and.mp h) hcontroller
    rw [if_neg hclass]
    rfl
  · rfl

theorem exists_place (h : t.isDirectory path = true) : ∃ place, t.place path = .ok place := by
  unfold FileTree.isDirectory FileTree.find? at h
  cases hplace : t.place path with
  | ok place => exact ⟨place, rfl⟩
  | error e =>
    rw [hplace] at h
    cases h

/-- A scan finds the devices that it can read among those that its entries lead to. -/
theorem deviceBelow?_eq_some_iff : deviceBelow? log t scsiOnly class_ top name = some d ↔
    ∃ b, LeadsBelow t scsiOnly class_ top name b ∧
      (blockDevice log t scsiOnly b).outcome = .ok d := by
  simp only [deviceBelow?, Option.bind_eq_some_iff, entryBelow_iff, Attempt.toOption_eq_some_iff]

/-- Only the SCSI address can be missing from a block device. -/
theorem blockDevice_ok_iff (log : Logger) (t : FileTree) {b : BlockPlace} :
    (∃ d, (blockDevice log t scsiOnly b).outcome = .ok d) ↔
      ∃ address, scsiAddress b scsiOnly = .ok address := by
  simp only [blockDevice, Attempt.outcome_bind, Attempt.outcome_ofOutcome]
  cases scsiAddress b scsiOnly with
  | error failure => simp [Except.bind]
  | ok address =>
    simp only [Except.bind]
    split <;> exact ⟨fun _ => ⟨_, rfl⟩, fun _ => ⟨_, rfl⟩⟩

/-- Every block device that an entry leads to has an address, where one is asked for. -/
def Readable (t : FileTree) (scsiOnly : Bool) (class_ : String) (top : Place) : Prop :=
  ∀ name ∈ t.list class_, ∀ b, LeadsBelow t scsiOnly class_ top name b →
    ∃ address, scsiAddress b scsiOnly = .ok address

theorem all_isReadable_iff (log : Logger) :
    (t.list class_).all (isReadable log t scsiOnly class_ top) = true ↔
      Readable t scsiOnly class_ top := by
  rw [List.all_eq_true]
  refine forall₂_congr fun name _ => ?_
  rw [isReadable, Option.all_eq_true]
  refine forall_congr' fun b => ?_
  rw [entryBelow_iff, Option.isSome_iff_exists, ← blockDevice_ok_iff log t]
  simp only [Attempt.toOption_eq_some_iff]

/-- No two entries lead to block devices of one name. -/
def DistinctNames (t : FileTree) (scsiOnly : Bool) (class_ : String) (top : Place) : Prop :=
  (t.list class_).Pairwise fun x y => ∀ b b', LeadsBelow t scsiOnly class_ top x b →
    LeadsBelow t scsiOnly class_ top y b' → b.name ≠ b'.name

/-- No name is repeated among the block devices that the entries lead to. -/
theorem distinctNames_iff (log : Logger) : DistinctNames t scsiOnly class_ top ↔
    (((t.list class_).filterMap (entryBelow log t scsiOnly class_ top)).map (·.name)).Nodup := by
  rw [List.Nodup, List.pairwise_map, List.pairwise_filterMap, DistinctNames]
  simp only [entryBelow_iff]
  refine List.Pairwise.iff fun x y => ?_
  exact ⟨fun h b hb b' hb' => h b b' hb hb', fun h b b' hb hb' => h b hb b' hb'⟩

instance : Decidable (DistinctNames t scsiOnly class_ top) :=
  decidable_of_iff _ (distinctNames_iff (.silent "")).symm

theorem DistinctNames.nodup (h : DistinctNames t scsiOnly class_ top) (log : Logger) :
    (((t.list class_).filterMap (deviceBelow? log t scsiOnly class_ top)).map
      (·.name)).Nodup := by
  rw [List.Nodup, List.pairwise_map, List.pairwise_filterMap]
  refine h.imp fun hxy d hd d' hd' => ?_
  obtain ⟨b, hb, hread⟩ := deviceBelow?_eq_some_iff.mp hd
  obtain ⟨b', hb', hread'⟩ := deviceBelow?_eq_some_iff.mp hd'
  rw [(of_blockDevice hread).1, (of_blockDevice hread').1]
  exact hxy b b' hb hb'

theorem DistinctNames.eq (h : DistinctNames t scsiOnly class_ top) (hx : x ∈ t.list class_)
    (hy : y ∈ t.list class_) (hb : LeadsBelow t scsiOnly class_ top x b)
    (hb' : LeadsBelow t scsiOnly class_ top y b') (hname : b.name = b'.name) : x = y := by
  have : Std.Symm fun x y => ∀ b b', LeadsBelow t scsiOnly class_ top x b →
      LeadsBelow t scsiOnly class_ top y b' → b.name ≠ b'.name :=
    ⟨fun x y hxy b b' hb hb' => (hxy b' b hb' hb).symm⟩
  by_contra hne
  exact List.Pairwise.forall h hx hy hne b b' hb hb' hname

/-- Two orders of the class directory: a scan fails for both, or finds the same block devices. -/
theorem blockDevices_reordered (h : Reordered t t')
    (hnames : ∀ top, t.place controller = .ok top →
      DistinctNames t scsiOnly (Path.join root "class/block") top) (log : Logger) :
    (blockDevices log t' root controller scsiOnly).outcome.toOption =
      (blockDevices log t root controller scsiOnly).outcome.toOption := by
  by_cases hdirs : t.isDirectory controller = true ∧
      t.isDirectory (Path.join root "class/block") = true
  · obtain ⟨hcontroller, hclass⟩ := hdirs
    obtain ⟨top, htop⟩ := exists_place hcontroller
    have hreadable : isReadable log t' scsiOnly (Path.join root "class/block") top =
        isReadable log t scsiOnly (Path.join root "class/block") top := by
      funext name
      simp only [isReadable, entryBelow, classEntry_reordered h, blockDevice_reordered h]
    have hdevice : deviceBelow? log t' scsiOnly (Path.join root "class/block") top =
        deviceBelow? log t scsiOnly (Path.join root "class/block") top := by
      funext name
      simp only [deviceBelow?, entryBelow, classEntry_reordered h, blockDevice_reordered h]
    have hlist := h.list (Path.join root "class/block")
    rw [blockDevices_toOption rfl hclass hcontroller htop,
      blockDevices_toOption rfl (h.isDirectory_eq ▸ hclass) (h.isDirectory_eq ▸ hcontroller)
        (h.place_eq ▸ htop), hreadable, hdevice, hlist.all_eq,
      Listing.mergeSort_eq_of_perm ((hnames top htop).nodup log) (hlist.filterMap _)]
  · rw [blockDevices_fails hdirs, blockDevices_fails (h.isDirectory_eq ▸ hdirs)]

/-- The block devices are those of the entries, one for each, strictly in the order of names. -/
structure IsScan (log : Logger) (t : FileTree) (scsiOnly : Bool) (class_ : String) (top : Place)
    (devices : List BlockDevice) : Prop where
  sorted : devices.Pairwise fun a b => nameOrder a.name b.name = .lt
  entry : ∀ d ∈ devices, ∃! name, name ∈ t.list class_ ∧
    ∃ b, LeadsBelow t scsiOnly class_ top name b ∧ (blockDevice log t scsiOnly b).outcome = .ok d
  device : ∀ name ∈ t.list class_, ∀ b, LeadsBelow t scsiOnly class_ top name b →
    ∃! d, d ∈ devices ∧ (blockDevice log t scsiOnly b).outcome = .ok d

/-- Sorted by distinct names, the devices that were read are all there, each once. -/
theorem isScan_mergeSort (hnames : DistinctNames t scsiOnly class_ top)
    (hreadable : Readable t scsiOnly class_ top) (log : Logger) :
    IsScan log t scsiOnly class_ top
      (((t.list class_).filterMap (deviceBelow? log t scsiOnly class_ top)).mergeSort
        fun a b => (nameOrder a.name b.name).isLE) := by
  have hmem (d : BlockDevice) : d ∈ ((t.list class_).filterMap
        (deviceBelow? log t scsiOnly class_ top)).mergeSort
          (fun a b => (nameOrder a.name b.name).isLE) ↔
      ∃ name ∈ t.list class_, ∃ b, LeadsBelow t scsiOnly class_ top name b ∧
        (blockDevice log t scsiOnly b).outcome = .ok d := by
    rw [List.mem_mergeSort, List.mem_filterMap]
    simp only [deviceBelow?_eq_some_iff]
  constructor
  · exact Listing.mergeSort_strict (hnames.nodup log)
  · intro d hd
    obtain ⟨name, hname, b, hb, hread⟩ := (hmem d).mp hd
    refine ⟨name, ⟨hname, b, hb, hread⟩, ?_⟩
    rintro name' ⟨hname', b', hb', hread'⟩
    refine hnames.eq hname' hname hb' hb ?_
    rw [← (of_blockDevice hread).1, ← (of_blockDevice hread').1]
  · intro name hname b hb
    obtain ⟨d, hread⟩ := (blockDevice_ok_iff log t).mpr (hreadable name hname b hb)
    refine ⟨d, ⟨(hmem d).mpr ⟨name, hname, b, hb, hread⟩, hread⟩, ?_⟩
    rintro d' ⟨-, hread'⟩
    exact Except.ok.inj (hread'.symm.trans hread)

/-- A scan succeeds unless a directory is missing or a device is not named by a SCSI address. -/
theorem blockDevices_ok_iff :
    (∃ devices, (blockDevices log t root controller scsiOnly).outcome = .ok devices) ↔
      t.isDirectory controller = true ∧ t.isDirectory (Path.join root "class/block") = true ∧
        ∀ top, t.place controller = .ok top →
          Readable t scsiOnly (Path.join root "class/block") top := by
  simp only [← Attempt.toOption_eq_some_iff, ← Option.isSome_iff_exists]
  by_cases hdirs : t.isDirectory controller = true ∧
      t.isDirectory (Path.join root "class/block") = true
  · obtain ⟨hcontroller, hclass⟩ := hdirs
    obtain ⟨top, htop⟩ := exists_place hcontroller
    rw [blockDevices_toOption rfl hclass hcontroller htop]
    simp only [hcontroller, hclass, htop, Except.ok.injEq, forall_eq', true_and,
      ← all_isReadable_iff log]
    split <;> simp [*]
  · rw [blockDevices_fails hdirs]
    constructor
    · intro h
      cases h
    · rintro ⟨hcontroller, hclass, -⟩
      exact absurd ⟨hcontroller, hclass⟩ hdirs

theorem isScan_of_blockDevices (htop : t.place controller = .ok top)
    (hnames : DistinctNames t scsiOnly (Path.join root "class/block") top)
    (h : (blockDevices log t root controller scsiOnly).outcome = .ok devices) :
    IsScan log t scsiOnly (Path.join root "class/block") top devices := by
  obtain ⟨hcontroller, hclass, -⟩ := blockDevices_ok_iff.mp ⟨devices, h⟩
  rw [← Attempt.toOption_eq_some_iff, blockDevices_toOption rfl hclass hcontroller htop,
    Option.ite_none_right_eq_some] at h
  obtain ⟨hreadable, h⟩ := h
  exact Option.some.inj h ▸ isScan_mergeSort hnames ((all_isReadable_iff log).mp hreadable) log

/-! ## The bus -/

/-- The device of an entry of the bus directory. -/
def deviceAt? (t : FileTree) (bus name : String) : Option PciDevice :=
  (PciAddress.ofText? name).bind fun address =>
    pciDevice? t address ((t.canonical (Path.join bus name)).toOption.getD (Path.join bus name))

theorem busEntry_value (log : Logger) (t : FileTree) (bus name : String) :
    (busEntry log t bus name).value = deviceAt? t bus name := by
  unfold busEntry deviceAt?
  cases PciAddress.ofText? name with
  | none => rfl
  | some address =>
    dsimp only
    rw [Option.bind_some]
    cases pciDevice? t address
      ((t.canonical (Path.join bus name)).toOption.getD (Path.join bus name)) <;> rfl

theorem of_pciDevice? (h : pciDevice? t address path = some d) : d.address = address ∧
    d.path = path ∧ d.uncorrectableErrors = uncorrectableFiles.flatMap (errorRecords t path) := by
  unfold pciDevice? at h
  dsimp only at h
  split at h
  · cases h
    exact ⟨rfl, rfl, rfl⟩
  · cases h

theorem deviceAt?_address (h : deviceAt? t bus name = some d) :
    PciAddress.ofText? name = some d.address := by
  obtain ⟨address, haddress, hread⟩ := Option.bind_eq_some_iff.mp h
  rw [haddress, (of_pciDevice? hread).1]

theorem pciDevices_outcome (hbus : Path.join root "bus/pci/devices" = bus) (log : Logger)
    (t : FileTree) :
    (pciDevices log t root).outcome =
      if t.isDirectory bus then
        .ok (((t.list bus).filterMap (deviceAt? t bus)).mergeSort
          fun a b => (a.address.order b.address).isLE)
      else .error (.malformedTopology bus .noPciBus) := by
  unfold pciDevices
  rw [hbus]
  dsimp only
  split
  · have hvalue : (fun name => (busEntry log t bus name).value) = deviceAt? t bus :=
      funext (busEntry_value log t bus)
    rw [Attempt.outcome_bind, Attempt.outcome_lift, Attempt.ok_bind, Attempt.outcome_pure,
      Traced.value_mapM, hvalue, List.filterMap_map, Function.id_comp]
  · rfl

theorem pciDevices_ok_iff : (∃ devices, (pciDevices log t root).outcome = .ok devices) ↔
    t.isDirectory (Path.join root "bus/pci/devices") = true := by
  rw [pciDevices_outcome rfl]
  split <;> simp [*]

/-- The bus has the storage controllers that its entries are, and no others. -/
theorem mem_pciDevices_iff (h : (pciDevices log t root).outcome = .ok devices) (d : PciDevice) :
    d ∈ devices ↔ ∃ name ∈ t.list (Path.join root "bus/pci/devices"),
      deviceAt? t (Path.join root "bus/pci/devices") name = some d := by
  rw [pciDevices_outcome rfl] at h
  split at h
  · obtain rfl := Except.ok.inj h
    rw [List.mem_mergeSort, List.mem_filterMap]
  · cases h

/-- No two entries are named by the same address. -/
def DistinctAddresses (t : FileTree) (bus : String) : Prop :=
  ((t.list bus).filterMap PciAddress.ofText?).Nodup

instance : Decidable (DistinctAddresses t bus) := inferInstanceAs (Decidable (List.Nodup _))

theorem DistinctAddresses.nodup (h : DistinctAddresses t bus) :
    (((t.list bus).filterMap (deviceAt? t bus)).map (·.address)).Nodup := by
  rw [DistinctAddresses, List.Nodup, List.pairwise_filterMap] at h
  rw [List.Nodup, List.pairwise_map, List.pairwise_filterMap]
  refine h.imp ?_
  intro x y hxy d hd d' hd'
  exact hxy _ (deviceAt?_address hd) _ (deviceAt?_address hd')

/-- Two orders of the bus directory give the same devices. -/
theorem pciDevices_reordered (h : Reordered t t')
    (haddresses : DistinctAddresses t (Path.join root "bus/pci/devices")) (log : Logger) :
    (pciDevices log t' root).outcome = (pciDevices log t root).outcome := by
  have hdevice : deviceAt? t' = deviceAt? t := by
    funext bus name
    simp only [deviceAt?, pciDevice?_reordered h, h.canonical_eq]
  rw [pciDevices_outcome rfl, pciDevices_outcome rfl, h.isDirectory_eq, hdevice,
    Listing.mergeSort_eq_of_perm haddresses.nodup ((h.list _).filterMap _)]

/-- The devices are those of the entries, strictly in the order of addresses. -/
structure IsBusScan (t : FileTree) (bus : String) (devices : List PciDevice) : Prop where
  sorted : devices.Pairwise fun a b => a.address.order b.address = .lt
  mem_iff : ∀ d, d ∈ devices ↔ ∃ name ∈ t.list bus, deviceAt? t bus name = some d

theorem isBusScan_of_pciDevices
    (haddresses : DistinctAddresses t (Path.join root "bus/pci/devices"))
    (h : (pciDevices log t root).outcome = .ok devices) :
    IsBusScan t (Path.join root "bus/pci/devices") devices := by
  refine ⟨?_, mem_pciDevices_iff h⟩
  rw [pciDevices_outcome rfl] at h
  split at h
  · obtain rfl := Except.ok.inj h
    exact Listing.mergeSort_strict haddresses.nodup
  · cases h

/-! ## Main result -/

/-- A place is cut when there is a directory `block` in it with something behind. -/
theorem BlockPlace.ofPlace?_isSome_iff : (BlockPlace.ofPlace? place).isSome = true ↔
    ∃ device rest, rest ≠ [] ∧ place = device ++ "block" :: rest := by
  constructor
  · intro h
    obtain ⟨b, hb⟩ := Option.isSome_iff_exists.mp h
    obtain ⟨rest, hne, -, hplace⟩ := BlockPlace.place_eq hb
    exact ⟨b.device, rest, hne, hplace⟩
  · rintro ⟨device, rest, hne, rfl⟩
    induction device with
    | nil =>
      rw [List.nil_append, BlockPlace.ofPlace?]
      split
      · rfl
      · simp [hne]
    | cons step device ih =>
      obtain ⟨b, hb⟩ := Option.isSome_iff_exists.mp ih
      rw [List.cons_append, BlockPlace.ofPlace?, hb]
      rfl

theorem isScsi_iff : isScsi place = true ↔
    (∃ step ∈ place, "host".toList <+: step.toList) ∧
      ∃ step ∈ place, "target".toList <+: step.toList := by
  simp only [isScsi, Bool.and_eq_true, List.any_eq_true, Text.beginsWith,
    List.isPrefixOf_iff_prefix]

/-- What is found does not depend on the order in which directories list, and is complete and
sorted. -/
structure OrderFree (log : Logger) (root : String) (t t' : FileTree) : Prop where
  blockDevices : ∀ controller scsiOnly,
    (∀ top, t.place controller = .ok top →
      DistinctNames t scsiOnly (Path.join root "class/block") top) →
    (blockDevices log t' root controller scsiOnly).outcome.toOption =
      (blockDevices log t root controller scsiOnly).outcome.toOption
  /-- Whether a scan succeeds is not a matter of order either. -/
  succeeds : ∀ controller scsiOnly,
    (∃ devices, (Kernel.blockDevices log t root controller scsiOnly).outcome = .ok devices) ↔
      t.isDirectory controller = true ∧ t.isDirectory (Path.join root "class/block") = true ∧
        ∀ top, t.place controller = .ok top →
          Readable t scsiOnly (Path.join root "class/block") top
  complete : ∀ controller scsiOnly top devices, t.place controller = .ok top →
    DistinctNames t scsiOnly (Path.join root "class/block") top →
    (Kernel.blockDevices log t root controller scsiOnly).outcome = .ok devices →
    IsScan log t scsiOnly (Path.join root "class/block") top devices
  /-- A place has a block device when there is a directory `block` in it with a name behind. -/
  segment : ∀ place, (BlockPlace.ofPlace? place).isSome = true ↔
    ∃ device rest, rest ≠ [] ∧ place = device ++ "block" :: rest
  /-- A place is on a SCSI bus when one of its names begins with `host` and one with `target`. -/
  scsi : ∀ place, isScsi place = true ↔
    (∃ step ∈ place, "host".toList <+: step.toList) ∧
      ∃ step ∈ place, "target".toList <+: step.toList
  pciDevices : DistinctAddresses t (Path.join root "bus/pci/devices") →
    (pciDevices log t' root).outcome = (pciDevices log t root).outcome
  pciSucceeds : (∃ devices, (Kernel.pciDevices log t root).outcome = .ok devices) ↔
    t.isDirectory (Path.join root "bus/pci/devices") = true
  pciComplete : ∀ devices, DistinctAddresses t (Path.join root "bus/pci/devices") →
    (Kernel.pciDevices log t root).outcome = .ok devices →
    IsBusScan t (Path.join root "bus/pci/devices") devices

/-- Sorted by distinct keys, what is found is the same in every order of the directories. Whether a
scan succeeds is the same in any case. -/
theorem listing_order (h : Reordered t t') (log : Logger) (root : String) :
    OrderFree log root t t' where
  blockDevices _ _ hnames := blockDevices_reordered h hnames log
  succeeds _ _ := blockDevices_ok_iff
  complete _ _ _ _ htop hnames := isScan_of_blockDevices htop hnames
  segment _ := BlockPlace.ofPlace?_isSome_iff
  scsi _ := isScsi_iff
  pciDevices haddresses := pciDevices_reordered h haddresses log
  pciSucceeds := pciDevices_ok_iff
  pciComplete _ := isBusScan_of_pciDevices

/-- The tree whose directories list backwards. -/
def reversed (t : FileTree) : FileTree := { t with names := fun place => (t.names place).reverse }

theorem reordered_reversed (t : FileTree) : Reordered t (reversed t) :=
  ⟨rfl, fun _ => List.reverse_perm _⟩

/-- A controller with two disks, the later one listed first, and two storage controllers of the
bus. -/
def twoDisks : FileTree := .ofEntries <|
  (["0:0:0:0", "0:0:1:0"].zip ["sdaa", "sdb"]).flatMap (fun (device, name) => [
    (["class", "block", name], .link (Path.ofPlace ["ahci", device, "block", name])),
    (["ahci", device], .directory), (["ahci", device, "block"], .directory),
    (["ahci", device, "block", name], .directory)]) ++
  ["0000:1a:00.0", "0000:03:00.0"].flatMap (fun name => [
    (["bus", "pci", "devices", name], .directory),
    (["bus", "pci", "devices", name, "class"], .file "0x010601")]) ++
  [["class"], ["class", "block"], ["ahci"], ["bus"], ["bus", "pci"], ["bus", "pci", "devices"]].map
    fun place => (place, .directory)

/-- One of the disks as it is found. -/
def foundDisk (name path : String) (target : UInt16) : BlockDevice :=
  { name, path, scsi := { target } }

/-- One of the controllers as it is found. -/
def foundController (bus : UInt32) (path : String) : PciDevice :=
  { address := { bus }, path, classCode := 0x010601 }

/-- Listed backwards, the disks are found in the order of their names and the controllers in that of
their addresses. -/
theorem listing_order_reversed :
    (reversed twoDisks).list "/class/block" = ["sdb", "sdaa"] ∧
      (blockDevices .fallback (reversed twoDisks) "/" "/ahci" false).outcome.toOption =
        some [foundDisk "sdb" "/ahci/0:0:1:0" 1, foundDisk "sdaa" "/ahci/0:0:0:0" 0] ∧
      (reversed twoDisks).list "/bus/pci/devices" = ["0000:03:00.0", "0000:1a:00.0"] ∧
      (pciDevices .fallback (reversed twoDisks) "/").outcome =
        .ok [foundController 0x03 "/bus/pci/devices/0000:03:00.0",
          foundController 0x1a "/bus/pci/devices/0000:1a:00.0"] := by
  have h := listing_order (reordered_reversed twoDisks) .fallback "/"
  have hplace : twoDisks.place "/ahci" = .ok ["ahci"] := by decide +kernel
  have hnames : DistinctNames twoDisks false (Path.join "/" "class/block") ["ahci"] := by
    decide +kernel
  have hfound : (twoDisks.list (Path.join "/" "class/block")).filterMap
      (deviceBelow? .fallback twoDisks false (Path.join "/" "class/block") ["ahci"]) =
        [foundDisk "sdaa" "/ahci/0:0:0:0" 0, foundDisk "sdb" "/ahci/0:0:1:0" 1] := by
    decide +kernel
  have hreadable : (twoDisks.list (Path.join "/" "class/block")).all
      (isReadable .fallback twoDisks false (Path.join "/" "class/block") ["ahci"]) = true := by
    decide +kernel
  have hbus : (twoDisks.list (Path.join "/" "bus/pci/devices")).filterMap
      (deviceAt? twoDisks (Path.join "/" "bus/pci/devices")) =
        [foundController 0x1a "/bus/pci/devices/0000:1a:00.0",
          foundController 0x03 "/bus/pci/devices/0000:03:00.0"] := by
    decide +kernel
  refine ⟨by decide +kernel, ?_, by decide +kernel, ?_⟩
  · rw [h.blockDevices "/ahci" false fun top htop =>
      Except.ok.inj (hplace.symm.trans htop) ▸ hnames]
    rw [blockDevices_toOption rfl (by decide +kernel) (by decide +kernel) hplace, if_pos hreadable,
      hfound, Listing.mergeSort_eq_of_perm (by decide) (List.Perm.swap ..),
      List.mergeSort_of_pairwise (by decide)]
  · rw [h.pciDevices (by decide +kernel), pciDevices_outcome rfl, if_pos (by decide +kernel), hbus,
      Listing.mergeSort_eq_of_perm (by decide) (List.Perm.swap ..),
      List.mergeSort_of_pairwise (by decide)]

end Kernel

end StorageInventory
