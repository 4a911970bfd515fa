import Mathlib.Data.List.TakeWhile
import StorageInventory.Proofs.Listing.Blocks
import StorageInventory.Proofs.Vendor.Outcome

/-!
# MegaRAID listings block by block

The listings of volumes, drives and controllers are read from lines, of which those with a key and a
value count. Main statements: a listing that is cut in front of a header is read as its two parts
are, and fails with the first of them that fails (`listedVolumes_append`, `listedDrives_append`,
`controllers_append`); each record is what the lines of its own block say (`listings_by_block`).
-/

namespace StorageInventory

namespace MegaRaid
variable {log : Logger} {A B body : List String}

/-- The key of a line that has one. -/
def lineKey? (line : String) : Option String := (Text.keyValue? line ":").map (·.1)

/-- The volumes of the lines of a listing. -/
def listedVolumes (log : Logger) (lines : List String) : Except Failure (List VolumeRecord) :=
  (volumes log (Listing.fields ":" lines)).outcome

/-- The drives of the lines of a listing. -/
def listedDrives (lines : List String) : Except Failure (List PhysicalDrive) :=
  drives (Listing.fields ":" lines)

/-! ## Lines and fields -/

theorem fields_append (A B : List String) :
    Listing.fields ":" (A ++ B) = Listing.fields ":" A ++ Listing.fields ":" B :=
  List.filterMap_append ..

theorem fields_cons (h : Text.keyValue? line ":" = some field) (B : List String) :
    Listing.fields ":" (line :: B) = field :: Listing.fields ":" B :=
  List.filterMap_cons_some h

theorem fields_key_ne (h : ∀ line ∈ body, lineKey? line ≠ some key) :
    ∀ field ∈ Listing.fields ":" body, (field.1 == key) = false := by
  intro field hfield
  obtain ⟨line, hline, hkey⟩ := List.mem_filterMap.mp hfield
  refine beq_eq_false_iff_ne.mpr fun he => h line hline ?_
  rw [lineKey?, hkey, Option.map_some, he]

theorem fields_head_key (h : ∀ b ∈ B.head?, lineKey? b = some key) :
    ∀ field ∈ (Listing.fields ":" B).head?, (field.1 == key) = true := by
  cases B with
  | nil => exact fun field hfield => absurd hfield (Option.not_mem_none field)
  | cons b B =>
    obtain ⟨field, hfield, rfl⟩ := Option.map_eq_some_iff.mp (h b rfl)
    rw [fields_cons hfield]
    rintro _ ⟨⟩
    exact beq_self_eq_true _

/-! ## Drives -/

/-- A list of drives is cut at any header; the first failure counts. -/
theorem listedDrives_append (A : List String)
    (h : ∀ b ∈ B.head?, lineKey? b = some "Enclosure Device ID") :
    listedDrives (A ++ B) =
      (listedDrives A).bind fun as => (listedDrives B).map (as ++ ·) := by
  rw [listedDrives, fields_append, drives,
    Listing.blocks_append isDriveHeader _ (fields_head_key h), Attempt.mapM_append]
  rfl

/-- A drive is what the lines behind its own header say. -/
theorem listedDrives_block
    (hheader : Text.keyValue? header ":" = some ("Enclosure Device ID", value))
    (hbody : ∀ line ∈ body, lineKey? line ≠ some "Enclosure Device ID") :
    listedDrives (header :: body) =
      ((Listing.fields ":" body).foldlM setDriveField
        { family := .megaRaid, enclosure := value }).map ([·]) := by
  rw [listedDrives, fields_cons hheader, drives,
    Listing.blocks_cons isDriveHeader (beq_self_eq_true _) (fields_key_ne hbody)]
  rfl

/-! ## Volumes -/

/-- The volume of a block, if its header has an identifier. -/
def blockVolume? (block : (String × String) × List (String × String)) :
    Except Failure (Option VolumeRecord) :=
  match volumeId? block.1.2 with
  | none => .ok none
  | some (group, target) =>
    let (own, others) := Listing.around (·.1 == "Number of Spans") block.2
    let start : VolumeRecord := { key := .target target, label := s!"grp:{group}" }
    (drives others).map fun members => some { own.foldl setVolumeField start with members }

theorem volume?_outcome (log : Logger) (block : (String × String) × List (String × String)) :
    (volume? log block).outcome = blockVolume? block := by
  unfold volume? blockVolume?
  cases volumeId? block.1.2 with
  | none => rfl
  | some id =>
    simp only [countedDrives, Attempt.outcome_bind, Attempt.outcome_ofOutcome, Attempt.outcome_lift,
      Attempt.outcome_pure, Attempt.ok_bind]
    cases drives (Listing.around (·.1 == "Number of Spans") block.2).2 <;> rfl

theorem volumes_outcome (log : Logger) (fields : List (String × String)) :
    (volumes log fields).outcome =
      ((Listing.blocks isVolumeHeader fields).mapM blockVolume?).map (List.filterMap id) := by
  have houtcome : (fun block => (volume? log block).outcome) = blockVolume? :=
    funext (volume?_outcome log)
  simp only [volumes, Attempt.outcome_bind, Attempt.outcome_mapM, houtcome, Attempt.outcome_lift,
    Attempt.outcome_pure, Attempt.ok_bind]
  cases (Listing.blocks isVolumeHeader fields).mapM blockVolume? <;> rfl

/-- A list of volumes is cut at any header; the first failure counts. -/
theorem listedVolumes_append (log : Logger) (A : List String)
    (h : ∀ b ∈ B.head?, lineKey? b = some "Virtual Drive") :
    listedVolumes log (A ++ B) =
      (listedVolumes log A).bind fun as => (listedVolumes log B).map (as ++ ·) := by
  simp only [listedVolumes, fields_append, volumes_outcome,
    Listing.blocks_append isVolumeHeader _ (fields_head_key h), Attempt.mapM_append]
  cases (Listing.blocks isVolumeHeader (Listing.fields ":" A)).mapM blockVolume? with
  | error failure => rfl
  | ok as =>
    cases (Listing.blocks isVolumeHeader (Listing.fields ":" B)).mapM blockVolume? with
    | error failure => rfl
    | ok bs => simp [Except.bind, Except.map]

theorem listedVolumes_block (log : Logger)
    (hheader : Text.keyValue? header ":" = some ("Virtual Drive", value))
    (hbody : ∀ line ∈ body, lineKey? line ≠ some "Virtual Drive") :
    listedVolumes log (header :: body) =
      (blockVolume? (("Virtual Drive", value), Listing.fields ":" body)).map Option.toList := by
  rw [listedVolumes, fields_cons hheader, volumes_outcome,
    Listing.blocks_cons isVolumeHeader (beq_self_eq_true _) (fields_key_ne hbody)]
  simp only [List.mapM_cons, List.mapM_nil]
  cases blockVolume? (("Virtual Drive", value), Listing.fields ":" body) with
  | error failure => rfl
  | ok found => cases found <;> rfl

/-- The fields of a volume end where the first one about its spans stands. -/
theorem around_append {α : Type} {p : α → Bool} {own others : List α}
    (hown : ∀ x ∈ own, p x = false) (hothers : ∀ x ∈ others.head?, p x = true) :
    Listing.around p (own ++ others) = (own, others.tail) := by
  have hall : ∀ x ∈ own, (!p x) = true := fun x hx => by simp [hown x hx]
  cases others with
  | nil =>
    simp [Listing.around, List.takeWhile_eq_self_iff.mpr hall, List.dropWhile_eq_nil_iff.mpr hall]
  | cons x others =>
    have hx : p x = true := hothers x rfl
    simp [Listing.around, List.takeWhile_append_of_pos hall, List.dropWhile_append_of_pos hall, hx]

/-- A volume is what the lines behind its own header say, its members what those behind the number
of spans do. -/
theorem blockVolume?_spans (hid : volumeId? value = some (group, target))
    (hown : ∀ line ∈ own, lineKey? line ≠ some "Number of Spans")
    (hothers : ∀ line ∈ others.head?, lineKey? line = some "Number of Spans") :
    blockVolume? (("Virtual Drive", value), Listing.fields ":" (own ++ others)) =
      (listedDrives others.tail).map fun members =>
        some { (Listing.fields ":" own).foldl setVolumeField
          { key := .target target, label := s!"grp:{group}" } with members } := by
  have htail : (Listing.fields ":" others).tail = Listing.fields ":" others.tail := by
    cases others with
    | nil => rfl
    | cons spans others =>
      obtain ⟨field, hfield, -⟩ := Option.map_eq_some_iff.mp (hothers spans rfl)
      rw [fields_cons hfield]
      rfl
  simp only [blockVolume?, hid, fields_append,
    around_append (fields_key_ne hown) (fields_head_key hothers), htail, listedDrives]

/-! ## Controllers -/

/-- The controller of a block, if its header has a number. -/
def blockController? (block : String × List String) : Option ListedController :=
  (controllerNumber? block.1).map fun n =>
    { adapterId := toString n
      pci := some ((Listing.fields ":" block.2).foldl setAddressField {}) }

theorem controllers_blocks (log : Logger) (lines : List String) :
    (controllers log lines).value =
      (Listing.blocks isControllerHeader lines).filterMap blockController? := by
  have hvalue : ∀ block, (controller? log block).value = blockController? block := by
    intro block
    unfold controller? blockController?
    cases controllerNumber? block.1 <;> rfl
  simp only [controllers, Traced.value_bind, Traced.value_mapM, Traced.value_pure, hvalue,
    List.filterMap_map]
  rfl

/-- A list of controllers is cut at any header, and its notes too. -/
theorem controllers_append (log : Logger) (A : List String)
    (h : ∀ b ∈ B.head?, isControllerHeader b) :
    controllers log (A ++ B) = do return (← controllers log A) ++ (← controllers log B) := by
  simp [controllers, Listing.blocks_append _ A h, List.mapM_append]

/-! ## Listings -/

/-- Listings are read block by block. -/
structure ReadByBlock (log : Logger) : Prop where
  /-- Two parts, the second of which begins with a header, are read one after the other, and the
  first that fails is the failure. -/
  volumes_append : ∀ A B, (∀ b ∈ B.head?, lineKey? b = some "Virtual Drive") →
    listedVolumes log (A ++ B) =
      (listedVolumes log A).bind fun as => (listedVolumes log B).map (as ++ ·)
  drives_append : ∀ A B, (∀ b ∈ B.head?, lineKey? b = some "Enclosure Device ID") →
    listedDrives (A ++ B) = (listedDrives A).bind fun as => (listedDrives B).map (as ++ ·)
  controllers_append : ∀ A B, (∀ b ∈ B.head?, isControllerHeader b) →
    controllers log (A ++ B) = do return (← controllers log A) ++ (← controllers log B)
  /-- A block whose header cannot be read might as well not be there. -/
  volumes_without : ∀ A header body B value,
    Text.keyValue? header ":" = some ("Virtual Drive", value) → volumeId? value = none →
    (∀ line ∈ body, lineKey? line ≠ some "Virtual Drive") →
    (∀ b ∈ B.head?, lineKey? b = some "Virtual Drive") →
    listedVolumes log (A ++ header :: body ++ B) = listedVolumes log (A ++ B)
  controllers_without : ∀ A header body B, isControllerHeader header →
    controllerNumber? header = none → (∀ line ∈ body, isControllerHeader line = false) →
    (∀ b ∈ B.head?, isControllerHeader b) →
    (controllers log (A ++ header :: body ++ B)).value = (controllers log (A ++ B)).value
  /-- The fields of a volume are in front of its number of spans, and its members are the drives of
  the lines behind it. -/
  volume : ∀ header own others value group target,
    Text.keyValue? header ":" = some ("Virtual Drive", value) →
    volumeId? value = some (group, target) →
    (∀ line ∈ own ++ others, lineKey? line ≠ some "Virtual Drive") →
    (∀ line ∈ own, lineKey? line ≠ some "Number of Spans") →
    (∀ line ∈ others.head?, lineKey? line = some "Number of Spans") →
    listedVolumes log (header :: (own ++ others)) =
      (listedDrives others.tail).map fun members =>
        [{ (Listing.fields ":" own).foldl setVolumeField
          { key := .target target, label := s!"grp:{group}" } with members }]
  drive : ∀ header body value,
    Text.keyValue? header ":" = some ("Enclosure Device ID", value) →
    (∀ line ∈ body, lineKey? line ≠ some "Enclosure Device ID") →
    listedDrives (header :: body) =
      ((Listing.fields ":" body).foldlM setDriveField
        { family := .megaRaid, enclosure := value }).map ([·])
  controller : ∀ header body n, isControllerHeader header → controllerNumber? header = some n →
    (∀ line ∈ body, isControllerHeader line = false) →
    (controllers log (header :: body)).value =
      [{ adapterId := toString n
         pci := some ((Listing.fields ":" body).foldl setAddressField {}) }]

/-- Volumes, drives and controllers are read block by block, each as if it were alone. -/
theorem listings_by_block (log : Logger) : ReadByBlock log where
  volumes_append A _ := listedVolumes_append log A
  drives_append A _ := listedDrives_append A
  controllers_append A _ := controllers_append log A
  volumes_without := by
    intro A header body B value hheader hid hbody hB
    have hnone : listedVolumes log (header :: body) = .ok [] := by
      rw [listedVolumes_block log hheader hbody, blockVolume?, hid]
      rfl
    have hkey : lineKey? header = some "Virtual Drive" := by rw [lineKey?, hheader]; rfl
    rw [List.append_assoc, listedVolumes_append log A (by simpa using hkey),
      listedVolumes_append log A hB, listedVolumes_append log _ hB, hnone]
    cases listedVolumes log B <;> rfl
  controllers_without := by
    intro A header body B hheader hnumber hbody hB
    rw [controllers_blocks, controllers_blocks,
      Listing.blocks_append_block _ A hheader hbody hB, Listing.blocks_append _ A hB,
      List.filterMap_append, List.filterMap_append, List.filterMap_cons_none]
    rw [blockController?, hnumber, Option.map_none]
  volume := by
    intro header own others value group target hheader hid hbody hown hothers
    rw [listedVolumes_block log hheader hbody, blockVolume?_spans hid hown hothers]
    cases listedDrives others.tail <;> rfl
  drive _ _ _ := listedDrives_block
  controller := by
    intro header body n hheader hnumber hbody
    rw [controllers_blocks, Listing.blocks_cons _ hheader hbody, List.filterMap_cons,
      blockController?, hnumber]
    rfl

/-- The block of a volume with one member. -/
def volumeLines (id slot place : String) : List String := [
  "Virtual Drive: " ++ id, "State: Optimal", "Number of Spans: 1",
  "Enclosure Device ID: 32", "Slot Number: " ++ slot, "Drive's position: " ++ place]

/-- A header that cannot be read takes its own lines with it, not those of the volume in front; of
two places that cannot be read the first is reported. -/
theorem listings_by_block_unreadable :
    listedVolumes .fallback (volumeLines "0 (Target Id: 0)" "4" "DiskGroup: 0, Span: 0, Arm: 1" ++
        volumeLines "1" "5" "unknown" ++ volumeLines "2 (Target Id: 2)" "6"
          "DiskGroup: 2, Span: 0, Arm: 0") =
      .ok [
        { key := .target 0, label := "grp:0", status := "Optimal", members := [
          { family := .megaRaid, enclosure := "32", slot := "4",
            ids.position := some ⟨0, 0, 1⟩ }] },
        { key := .target 2, label := "grp:2", status := "Optimal", members := [
          { family := .megaRaid, enclosure := "32", slot := "6",
            ids.position := some ⟨2, 0, 0⟩ }] }] ∧
    listedVolumes .fallback (volumeLines "0 (Target Id: 0)" "4" "first" ++
        volumeLines "1 (Target Id: 1)" "5" "second") =
      .error (.unreadableOutput .megaRaid (.badDrivePosition "first")) := by
  have h := listings_by_block .fallback
  constructor
  · refine (h.volumes_without _ "Virtual Drive: 1" (volumeLines "1" "5" "unknown").tail _ "1"
      (by decide +kernel) (by decide +kernel) (by decide +kernel) (by decide +kernel)).trans ?_
    decide +kernel
  · rw [h.volumes_append _ _ (by decide +kernel)]
    decide +kernel

end MegaRaid

end StorageInventory
