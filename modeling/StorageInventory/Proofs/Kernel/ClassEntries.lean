import StorageInventory.Kernel.Topology
import StorageInventory.Proofs.FileTree.Extension

/-!
# One more entry in the class directory

The class directory holds the block devices of all controllers, so every scan goes through all of
its entries. An entry that does not lead below a controller, or that leads nowhere, leaves no mark
on what is found below that controller (`blockDevices_addsEntry`).
-/

namespace StorageInventory.Kernel
open FileTree
variable {t t' : FileTree} {top place : Place} {class_ name : String}

/-! ## Block devices and their places -/

/-- The place of a block device is that of its device, `block`, and its name. -/
theorem BlockPlace.place_eq (h : BlockPlace.ofPlace? place = some b) :
    ∃ rest, rest ≠ [] ∧ b.name = "/".intercalate rest ∧ place = b.device ++ "block" :: rest := by
  induction place generalizing b with
  | nil => cases h
  | cons step place ih =>
    unfold BlockPlace.ofPlace? at h
    split at h
    · rename_i found hfound
      cases h
      obtain ⟨rest, hne, hname, rfl⟩ := ih hfound
      exact ⟨rest, hne, hname, rfl⟩
    · split at h
      · rename_i hblock
        cases h
        exact ⟨place, by simpa using hblock.2, rfl, by rw [hblock.1]; rfl⟩
      · cases h

theorem BlockPlace.isBelow_iff {b : BlockPlace} :
    b.isBelow top = true ↔ b.device ≠ [] ∧ top <+: b.device := by
  simp [isBelow]

/-! ## What is read of a device -/

theorem attribute?_eq_some_iff : attribute? t base name = some value ↔
    ∃ text, t.read (Path.join base name) = .ok text ∧ Text.trim text = value ∧ value ≠ "" := by
  unfold attribute?
  split
  · rename_i text htext
    simp only [htext, Except.ok.injEq, exists_eq_left', Option.ite_none_left_eq_some,
      Text.isBlank_iff, Option.some.injEq]
    constructor
    · rintro ⟨hne, rfl⟩
      exact ⟨rfl, hne⟩
    · rintro ⟨rfl, hne⟩
      exact ⟨hne, rfl⟩
  · rename_i e he
    simp [he]

/-- An attribute is what it was when its path leads nowhere new. -/
theorem attribute?_eq (hle : t ≤ t') (h : NothingNew t t' (Path.join base name)) :
    attribute? t' base name = attribute? t base name := by
  have hread : ∀ text, t'.read (Path.join base name) = .ok text ↔
    t.read (Path.join base name) = .ok text := fun _ => h.read_eq_ok_iff_read hle
  unfold attribute?
  split
  · rename_i text htext
    rw [(hread text).mp htext]
  · rename_i e he
    split
    · rename_i text htext
      rw [(hread text).mpr htext] at he
      cases he
    · rfl

theorem number_eq (hle : t ≤ t') (h : NothingNew t t' (Path.join base name)) :
    number t' base name = number t base name := by
  rw [number, number, number?, number?, attribute?_eq hle h]

theorem linkedName_eq (hle : t ≤ t') (h : NothingNew t t' (Path.join base name)) :
    linkedName t' base name = linkedName t base name := by
  rw [linkedName, linkedName, h.linkTarget?_eq hle]

/-- No path to a place below `top` leads anywhere new. -/
def NothingNewBelow (t t' : FileTree) (top : Place) : Prop :=
  ∀ place, top <+: place → (∀ name ∈ place, IsName name) → NothingNew t t' (Path.ofPlace place)

/-- A path is made of names alone. -/
def IsRelative (path : String) : Prop :=
  ∃ names, names ≠ [] ∧ (∀ name ∈ names, IsName name) ∧ "/".intercalate names = path

/-- What holds of all paths below a place holds of those that are read there. -/
theorem NothingNewBelow.join (h : NothingNewBelow t t' top) (htop : top <+: place)
    (hplace : ∀ name ∈ place, IsName name) (hpath : IsRelative path) :
    NothingNew t t' (Path.join (Path.ofPlace place) path) := by
  obtain ⟨names, hne, hnames, rfl⟩ := hpath
  rw [Path.join_ofPlace hplace hnames hne]
  exact h _ (htop.trans (List.prefix_append _ _)) (List.forall_mem_append.mpr ⟨hplace, hnames⟩)

theorem BlockPlace.blockPath_eq (hplace : ∀ name ∈ place, IsName name)
    (h : BlockPlace.ofPlace? place = some b) : b.blockPath = Path.ofPlace place := by
  obtain ⟨rest, hne, hname, rfl⟩ := BlockPlace.place_eq h
  rw [List.append_cons] at hplace ⊢
  obtain ⟨hblock, hrest⟩ := List.forall_mem_append.mp hplace
  have hdevice : Path.join b.devicePath "block" = Path.ofPlace (b.device ++ ["block"]) :=
    Path.join_ofPlace (List.forall_mem_append.mp hblock).1
      (by decide : ∀ name ∈ ["block"], IsName name) (by decide)
  rw [BlockPlace.blockPath, hdevice, hname, Path.join_ofPlace hblock hrest hne]

/-- What is read of a block device below `top` is the same in both trees. -/
theorem blockDevice_eq (hle : t ≤ t') (hbelow : NothingNewBelow t t' top)
    (hplace : ∀ name ∈ place, IsName name) (hb : BlockPlace.ofPlace? place = some b)
    (htop : top <+: b.device) (log : Logger) (scsiOnly : Bool) :
    blockDevice log t' scsiOnly b = blockDevice log t scsiOnly b := by
  obtain ⟨rest, -, -, hdevice⟩ := BlockPlace.place_eq hb
  have hd : ∀ path, IsRelative path → NothingNew t t' (Path.join b.devicePath path) := by
    rw [hdevice] at hplace
    exact fun _ => hbelow.join htop (List.forall_mem_append.mp hplace).1
  have hk : ∀ path, IsRelative path → NothingNew t t' (Path.join b.blockPath path) := by
    rw [BlockPlace.blockPath_eq hplace hb, hdevice]
    exact fun _ => hbelow.join (htop.trans (List.prefix_append _ _)) (hdevice ▸ hplace)
  simp only [blockDevice, attributeText,
    linkedName_eq hle (hd "driver" ⟨["driver"], by decide⟩),
    attribute?_eq hle (hd "model" ⟨["model"], by decide⟩),
    attribute?_eq hle (hd "sas_address" ⟨["sas_address"], by decide⟩),
    attribute?_eq hle (hd "wwid" ⟨["wwid"], by decide⟩),
    number_eq hle (hk "size" ⟨["size"], by decide⟩),
    number_eq hle (hk "queue/logical_block_size" ⟨["queue", "logical_block_size"], by decide⟩),
    number_eq hle (hk "queue/physical_block_size" ⟨["queue", "physical_block_size"], by decide⟩),
    attribute?_eq hle (hk "queue/scheduler" ⟨["queue", "scheduler"], by decide⟩)]

/-- What is shown of a block device by which it is matched. -/
theorem of_blockDevice {log : Logger} (h : (blockDevice log t scsiOnly b).outcome = .ok device) :
    device.name = b.name ∧ device.path = b.devicePath ∧
      device.sasAddress = (attribute? t b.devicePath "sas_address").bind Identifier.canonical? ∧
      device.wwn = (attribute? t b.devicePath "wwid").bind wideName? := by
  simp only [blockDevice, Attempt.outcome_bind, Attempt.outcome_ofOutcome] at h
  cases hscsi : scsiAddress b scsiOnly with
  | error failure =>
    rw [hscsi] at h
    cases h
  | ok scsi =>
    simp only [hscsi, Except.bind] at h
    split at h <;> cases h <;> exact ⟨rfl, rfl, rfl, rfl⟩

/-! ## What the entries lead to -/

theorem classEntry_eq_some_iff {log : Logger} {scsiOnly : Bool} :
    (classEntry log t scsiOnly class_ name).value = some b ↔
      ∃ place, t.place (Path.join class_ name) = .ok place ∧
        t.holds (Path.join (Path.ofPlace place) "partition") = false ∧
        (scsiOnly && !isScsi place) = false ∧ BlockPlace.ofPlace? place = some b := by
  unfold classEntry
  dsimp only
  split
  · rename_i e hplace
    simp [hplace]
  · rename_i place hplace
    split
    · rename_i hpassed
      rw [Bool.or_eq_true] at hpassed
      simp only [Traced.value_pure, reduceCtorEq, hplace, Except.ok.injEq, false_iff]
      rintro ⟨_, rfl, hpartition, hscsi, -⟩
      rw [hpartition, hscsi] at hpassed
      exact hpassed.elim Bool.false_ne_true Bool.false_ne_true
    · rename_i hkept
      rw [Bool.not_eq_true, Bool.or_eq_false_iff] at hkept
      simp only [hplace, Except.ok.injEq, exists_eq_left', hkept, true_and]
      cases BlockPlace.ofPlace? place <;> simp

/-- The block device below a place that an entry of the class directory leads to. -/
def entryBelow (log : Logger) (t : FileTree) (scsiOnly : Bool) (class_ : String) (top : Place)
    (name : String) : Option BlockPlace :=
  (classEntry log t scsiOnly class_ name).value.filter (·.isBelow top)

theorem entryBelow_eq_some_iff {log : Logger} {scsiOnly : Bool} :
    entryBelow log t scsiOnly class_ top name = some b ↔
      ∃ place, t.place (Path.join class_ name) = .ok place ∧
        t.holds (Path.join (Path.ofPlace place) "partition") = false ∧
        (scsiOnly && !isScsi place) = false ∧ BlockPlace.ofPlace? place = some b ∧
        b.device ≠ [] ∧ top <+: b.device := by
  rw [entryBelow, Option.filter_eq_some_iff, classEntry_eq_some_iff, BlockPlace.isBelow_iff]
  constructor
  · rintro ⟨⟨place, hplace, hpartition, hscsi, hb⟩, htop⟩
    exact ⟨place, hplace, hpartition, hscsi, hb, htop⟩
  · rintro ⟨place, hplace, hpartition, hscsi, hb, htop⟩
    exact ⟨⟨place, hplace, hpartition, hscsi, hb⟩, htop⟩

/-- The outcome of a scan, without its notes: the entries below the controller, read and sorted. -/
theorem blockDevices_outcome {class_ : String} (hroot : Path.join root "class/block" = class_)
    (hclass : t.isDirectory class_ = true) (hcontroller : t.isDirectory controller = true)
    (htop : t.place controller = .ok top) (log : Logger) (scsiOnly : Bool) :
    (blockDevices log t root controller scsiOnly).outcome =
      (((t.list class_).filterMap (entryBelow log t scsiOnly class_ top)).mapM
        (blockDevice log t scsiOnly)).outcome.map
          fun devices => devices.mergeSort fun a b => (nameOrder a.name b.name).isLE := by
  have hbelow : ((((t.list class_).mapM (classEntry log t scsiOnly class_)).value.filterMap
      id).filter (·.isBelow top)) =
      (t.list class_).filterMap (entryBelow log t scsiOnly class_ top) := by
    rw [Traced.value_mapM, List.filterMap_map, List.filter_filterMap]
    rfl
  unfold blockDevices
  simp only [hroot, hcontroller, htop, hclass, if_true, Attempt.outcome_bind, Attempt.outcome_lift,
    Except.bind, hbelow]
  cases (((t.list class_).filterMap (entryBelow log t scsiOnly class_ top)).mapM
    (blockDevice log t scsiOnly)).outcome <;> rfl

/-! ## One more entry -/

/-- The second tree has one more entry in the class directory, and more files for it to lead to.
Whatever stood in the first tree stands there still, and neither the other entries nor the paths
below `top` lead anywhere new. -/
structure AddsEntry (t t' : FileTree) (class_ name : String) (top : Place) : Prop where
  le : t ≤ t'
  listed : ∃ front back, t.list class_ = front ++ back ∧ t'.list class_ = front ++ name :: back
  others : ∀ other ∈ t.list class_, ∀ p, t'.place (Path.join class_ other) = .ok p →
    t.place (Path.join class_ other) = .ok p
  below : NothingNewBelow t t' top

/-- The other entries lead to the block devices below `top` that they led to. -/
theorem AddsEntry.other_eq (h : AddsEntry t t' class_ name top) (hother : other ∈ t.list class_)
    (log : Logger) (scsiOnly : Bool) :
    entryBelow log t' scsiOnly class_ top other = entryBelow log t scsiOnly class_ top other := by
  ext b
  rw [entryBelow_eq_some_iff, entryBelow_eq_some_iff]
  refine exists_congr fun place => ?_
  have hplace : t'.place (Path.join class_ other) = .ok place ↔
      t.place (Path.join class_ other) = .ok place :=
    ⟨h.others other hother place, place_mono h.le⟩
  rw [hplace]
  refine and_congr_right fun hp => ?_
  by_cases hb : BlockPlace.ofPlace? place = some b ∧ b.device ≠ [] ∧ top <+: b.device
  · obtain ⟨hb, -, htop⟩ := hb
    obtain ⟨rest, -, -, hrest⟩ := BlockPlace.place_eq hb
    have hpath : IsRelative "partition" := ⟨["partition"], by decide⟩
    have hnew := h.below.join (htop.trans (hrest ▸ List.prefix_append _ _)) (place_names hp) hpath
    rw [hnew.holds_eq h.le]
  · simp only [hb, and_false]

/-- An entry that does not lead below a place leads to no block device there. -/
theorem entryBelow_eq_none (hout : ∀ p, t.place (Path.join class_ name) = .ok p → ¬ top <+: p)
    (log : Logger) (scsiOnly : Bool) : entryBelow log t scsiOnly class_ top name = none := by
  rw [Option.eq_none_iff_forall_ne_some]
  intro b hb
  obtain ⟨place, hplace, -, -, hplace', -, htop⟩ := entryBelow_eq_some_iff.mp hb
  obtain ⟨rest, -, -, rfl⟩ := BlockPlace.place_eq hplace'
  exact hout _ hplace (htop.trans (List.prefix_append _ _))

theorem AddsEntry.entries_eq (h : AddsEntry t t' class_ name top)
    (hout : ∀ p, t'.place (Path.join class_ name) = .ok p → ¬ top <+: p)
    (log : Logger) (scsiOnly : Bool) :
    (t'.list class_).filterMap (entryBelow log t' scsiOnly class_ top) =
      (t.list class_).filterMap (entryBelow log t scsiOnly class_ top) := by
  obtain ⟨front, back, hlist, hlist'⟩ := h.listed
  have hothers : ∀ other ∈ front ++ back, entryBelow log t' scsiOnly class_ top other =
      entryBelow log t scsiOnly class_ top other :=
    fun _ hother => h.other_eq (hlist ▸ hother) log scsiOnly
  rw [hlist, hlist', ← List.filterMap_congr hothers, List.filterMap_append, List.filterMap_append,
    List.filterMap_cons_none (entryBelow_eq_none hout log scsiOnly)]

/-- An entry of the class directory that leads nowhere, or anywhere but below a controller, does not
change what the scan of that controller gives, be it block devices or a failure. -/
theorem blockDevices_addsEntry (hclass : t.isDirectory (Path.join root "class/block") = true)
    (hcontroller : t.isDirectory controller = true) (htop : t.place controller = .ok top)
    (h : AddsEntry t t' (Path.join root "class/block") name top)
    (hout : ∀ p, t'.place (Path.join (Path.join root "class/block") name) = .ok p → ¬ top <+: p)
    (log : Logger) (scsiOnly : Bool) :
    (blockDevices log t' root controller scsiOnly).outcome =
      (blockDevices log t root controller scsiOnly).outcome := by
  rw [blockDevices_outcome rfl hclass hcontroller htop,
    blockDevices_outcome rfl (isDirectory_mono h.le hclass) (isDirectory_mono h.le hcontroller)
      (place_mono h.le htop), h.entries_eq hout]
  refine congrArg (Except.map _) (Attempt.outcome_mapM_congr fun b hb => ?_)
  obtain ⟨name, -, hname⟩ := List.mem_filterMap.mp hb
  obtain ⟨place, hplace, -, -, hb, -, hbelow⟩ := entryBelow_eq_some_iff.mp hname
  rw [blockDevice_eq h.le h.below (place_names hplace) hb hbelow]

/-- A disk of a controller, and its entry in the class directory. -/
def diskEntries (controller host target device name : String) : List (Place × Entry) :=
  let block := [controller, host, target, device, "block", name]
  (["class", "block", name], .link (Path.ofPlace block)) ::
    block.inits.tail.map (·, .directory) ++ [(block ++ ["size"], .file "1167966208")]

/-- A controller with one disk. -/
def oneDisk : List (Place × Entry) :=
  [(["class"], .directory), (["class", "block"], .directory)] ++
    diskEntries "0:1:0.0" "host0" "target0:2:0" "0:2:0:0" "sda"

/-- A disk of another controller, whose device is not named by an address. -/
def malformedDisk : List (Place × Entry) :=
  diskEntries "0:5:0.0" "host2" "target2:0:0" "not-an-address" "sdd"

/-- The names of the block devices of a scan. -/
def scannedNames (entries : List (Place × Entry)) (controller : String) : Option (List String) :=
  (blockDevices .fallback (.ofEntries entries) "/" controller true).outcome.toOption.map
    fun devices => devices.map (·.name)

/-- The scan of a controller fails on its malformed disk, and that of the other one does not. -/
theorem blockDevices_addsEntry_malformed :
    AddsEntry (.ofEntries oneDisk) (.ofEntries (oneDisk ++ malformedDisk))
        (Path.join "/" "class/block") "sdd" ["0:1:0.0"] ∧
      (∀ scsiOnly, (blockDevices .fallback (.ofEntries (oneDisk ++ malformedDisk)) "/" "/0:1:0.0"
          scsiOnly).outcome =
        (blockDevices .fallback (.ofEntries oneDisk) "/" "/0:1:0.0" scsiOnly).outcome) ∧
      scannedNames oneDisk "/0:1:0.0" = some ["sda"] ∧
      scannedNames (oneDisk ++ malformedDisk) "/0:5:0.0" = none := by
  have hlist : (ofEntries oneDisk).list (Path.join "/" "class/block") = ["sda"] := by
    decide +kernel
  have hsda : (ofEntries (oneDisk ++ malformedDisk)).place
      (Path.join (Path.join "/" "class/block") "sda") =
        (ofEntries oneDisk).place (Path.join (Path.join "/" "class/block") "sda") := by
    decide +kernel
  have hsdd : (ofEntries (oneDisk ++ malformedDisk)).place
      (Path.join (Path.join "/" "class/block") "sdd") =
        .ok ["0:5:0.0", "host2", "target2:0:0", "not-an-address", "block", "sdd"] := by
    decide +kernel
  have hadds : AddsEntry (.ofEntries oneDisk) (.ofEntries (oneDisk ++ malformedDisk))
      (Path.join "/" "class/block") "sdd" ["0:1:0.0"] := by
    refine ⟨ofEntries_le_append, ⟨["sda"], [], hlist, by decide +kernel⟩, ?_, ?_⟩
    · intro other hother p hp
      rw [hlist, List.mem_singleton] at hother
      subst hother
      exact hsda ▸ hp
    · exact fun place htop hnames => ofEntries_nothingNew (by decide) (by decide +kernel)
        (by decide +kernel) htop hnames
  have hout : ∀ p, (ofEntries (oneDisk ++ malformedDisk)).place
      (Path.join (Path.join "/" "class/block") "sdd") = .ok p → ¬ ["0:1:0.0"] <+: p := by
    intro p hp
    obtain rfl := Except.ok.inj (hsdd.symm.trans hp)
    decide
  refine ⟨hadds, fun scsiOnly => ?_, by decide +kernel, by decide +kernel⟩
  exact blockDevices_addsEntry (by decide +kernel) (by decide +kernel) (by decide +kernel)
    hadds hout _ _

end StorageInventory.Kernel
