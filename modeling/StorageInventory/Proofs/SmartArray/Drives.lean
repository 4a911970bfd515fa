import Mathlib.Data.List.Perm.Basic
import StorageInventory.Proofs.Listing.Blocks
import StorageInventory.Proofs.Vendor.Outcome

/-!
# The drives of a Smart Array inventory

Which of the drives that the details of a controller show have a record. The lines about drives are
cut into sections, those of arrays into volumes, and what is left into the blocks of drives; a block
is followed through all the cuts. Main statement: every record is read from a block of its own, and
a drive goes without a record only as a member of a volume whose device file an earlier volume has,
or in front of the first volume of its array (`decode_recorded`).
-/

namespace StorageInventory.SmartArray

open Listing (blockLines)

/-! ## The lines about drives -/

/-- The lines about arrays and drives: behind the banner of the controller, from the first line on
that opens an array or unassigned drives, up to the lines about enclosure processors. -/
def driveLines (lines : List String) : List String :=
  let content := (lines.map Text.trim).filter (!·.isEmpty)
  let behind := (content.dropWhile (!isBanner ·)).drop 1
  (behind.dropWhile fun line => !(isDriveSection line || isProcessor line)).takeWhile
    (!isProcessor ·)

theorem drop_length_takeWhile (p : α → Bool) (xs : List α) :
    xs.drop (xs.takeWhile p).length = xs.dropWhile p := by
  induction xs with
  | nil => rfl
  | cons x xs ih => by_cases h : p x <;> simp [h, ih]

/-- When there are lines about the controller, the others are those about drives. -/
theorem parts_snd (h : (parts lines).1 ≠ []) : (parts lines).2 = driveLines lines := by
  unfold parts driveLines at *
  dsimp only at h ⊢
  generalize (lines.map Text.trim).filter (!·.isEmpty) = content at *
  induction content with
  | nil => simp at h
  | cons x xs ih =>
    by_cases hsection : isDriveSection x
    · simp [hsection] at h
    by_cases hprocessor : isProcessor x
    · simp [hprocessor] at h
    by_cases hbanner : isBanner x
    · simp [hbanner, hsection, hprocessor, drop_length_takeWhile]
    · simp only [hbanner, hsection, hprocessor, List.dropWhile_cons, Bool.or_false, Bool.not_false,
        if_true] at h ⊢
      exact ih h

theorem isDriveSection_head (lines : List String) :
    ∀ line ∈ (driveLines lines).head?, isDriveSection line := by
  unfold driveLines
  dsimp only
  generalize ((lines.map Text.trim).filter (!·.isEmpty)).dropWhile (!isBanner ·) = content
  generalize hopened : (content.drop 1).dropWhile
    (fun line => !(isDriveSection line || isProcessor line)) = opened
  cases opened with
  | nil => simp
  | cons x xs =>
    have hx : isDriveSection x || isProcessor x := by
      have h := List.head?_dropWhile_not
        (fun line => !(isDriveSection line || isProcessor line)) (content.drop 1)
      rw [hopened] at h
      simpa only [List.head?_cons, Bool.not_eq_false'] using h
    intro line hline
    by_cases hprocessor : isProcessor x
    · simp [hprocessor] at hline
    · obtain rfl : x = line := by simpa [hprocessor] using hline
      simpa [hprocessor] using hx

/-! ## Drives -/

/-- The blocks of drives in a list of lines. -/
def driveBlocks (lines : List String) : List (String × List String) :=
  (Listing.blocks isHeader lines).filter (isDriveHeader ·.1)

/-- The drive that a block is read as. -/
def readDrive (block : String × List String) : SeenDrive :=
  (Listing.fields ": " block.2).foldl setDriveField (ofHeader block.1, false)

theorem drives_eq_map (lines : List String) : drives lines = (driveBlocks lines).map readDrive := by
  unfold drives driveBlocks
  induction Listing.blocks isHeader lines with
  | nil => rfl
  | cons b bs ih => by_cases h : isDriveHeader b.1 <;> simp [drive?, readDrive, h, ih]

theorem driveBlocks_sublist (lines : List String) :
    ((driveBlocks lines).flatMap blockLines).Sublist lines :=
  (List.filter_sublist.flatMap _).trans (Listing.flatMap_blocks_sublist isHeader lines)

/-- The blocks of drives are opened by the headers of drives. -/
theorem driveBlocks_headers (lines : List String) :
    (driveBlocks lines).map Prod.fst = lines.filter isDriveHeader := by
  have h := congrArg (List.filter isDriveHeader) (Listing.blocks_headers isHeader lines)
  rw [List.filter_map, List.filter_filter] at h
  refine h.trans (List.filter_congr fun line _ => ?_)
  simp +contextual [isHeader]

/-- Lines that begin with a header are cut into drives on their own. -/
theorem driveBlocks_append (front : List String) (h : ∀ line ∈ back.head?, isHeader line) :
    driveBlocks (front ++ back) = driveBlocks front ++ driveBlocks back := by
  rw [driveBlocks, Listing.blocks_append isHeader front h, List.filter_append]
  rfl

/-- The blocks of the drives with a header of two words. -/
def memberBlocks (blocks : List (String × List String)) : List (String × List String) :=
  blocks.filter (isMemberHeader ·.1)

theorem memberBlocks_append (as bs : List (String × List String)) :
    memberBlocks (as ++ bs) = memberBlocks as ++ memberBlocks bs := List.filter_append ..

/-- The drives with a header of two words are those headers, in order. -/
theorem memberBlocks_headers (lines : List String) :
    (memberBlocks (driveBlocks lines)).map Prod.fst = lines.filter isMemberHeader := by
  have hmember : (memberBlocks (driveBlocks lines)).map Prod.fst =
      ((driveBlocks lines).map Prod.fst).filter isMemberHeader := by
    rw [memberBlocks, List.filter_map]
    rfl
  rw [hmember, driveBlocks_headers, List.filter_filter]
  exact List.filter_congr fun line _ => by simp +contextual [isMemberHeader]

/-! ## Volumes -/

/-- The lines of a volume from its first member on. -/
def memberLines (block : String × List String) : List String :=
  block.2.dropWhile (!isMemberHeader ·)

/-- The device file of a volume: the last that is named in front of its members, else none. -/
def diskName (block : String × List String) : String :=
  ((Listing.fields ":" (block.2.takeWhile (!isMemberHeader ·))).reverse.lookup "Disk Name").getD ""

theorem setVolumeField_key (v : VolumeRecord) (field : String × String) :
    (setVolumeField v field).key =
      if field.1 = "Disk Name" then .devicePath field.2 else v.key := by
  unfold setVolumeField
  split <;> simp_all

theorem foldl_setVolumeField_key (v : VolumeRecord) (fields : List (String × String)) :
    (fields.foldl setVolumeField v).key =
      ((fields.reverse.lookup "Disk Name").map .devicePath).getD v.key := by
  induction fields generalizing v with
  | nil => rfl
  | cons field fields ih =>
    obtain ⟨name, value⟩ := field
    rw [List.foldl_cons, ih, setVolumeField_key, List.reverse_cons, List.lookup_append]
    cases fields.reverse.lookup "Disk Name" with
    | some last => rfl
    | none =>
      by_cases h : name = "Disk Name"
      · simp [h]
      · simp [List.lookup_cons, h, beq_eq_false_iff_ne.mpr (Ne.symm h)]

/-- A volume without a device file has the empty name for its key. -/
theorem volume_key (block : String × List String) :
    (volume block).key = .devicePath (diskName block) := by
  unfold volume diskName
  dsimp only
  rw [foldl_setVolumeField_key]
  cases List.lookup "Disk Name" _ <;> rfl

theorem volume_members (block : String × List String) :
    (volume block).members = (driveBlocks (memberLines block)).map fun b => (readDrive b).1 := by
  simp [volume, memberLines, drives_eq_map]

theorem isMemberHeader_of_isVolumeHeader (h : isVolumeHeader line) :
    isMemberHeader line = false := by
  unfold isVolumeHeader Text.beginsWith at h
  obtain ⟨rest, hline⟩ := List.isPrefixOf_iff_prefix.mp h
  have hdrive : isDriveHeader line = false := by
    unfold isDriveHeader Text.beginsWith
    rw [← hline]
    rfl
  simp [isMemberHeader, hdrive]

/-- The blocks of all drives in a volume. -/
def volumeDrives (block : String × List String) : List (String × List String) :=
  driveBlocks (blockLines block)

/-- The drives of a volume are those in front of its first member, and the others. -/
theorem volumeDrives_eq (block : String × List String) :
    volumeDrives block =
      driveBlocks (block.1 :: block.2.takeWhile (!isMemberHeader ·)) ++
        driveBlocks (memberLines block) := by
  have hfirst : ∀ line ∈ (memberLines block).head?, isHeader line := by
    intro line hline
    have h := List.head?_dropWhile_not (!isMemberHeader ·) block.2
    rw [← memberLines, hline] at h
    have hmember : isMemberHeader line := by simpa using h
    simp [isHeader, (Bool.and_eq_true_iff.mp hmember).1]
  rw [← driveBlocks_append _ hfirst, List.cons_append, memberLines, List.takeWhile_append_dropWhile]
  rfl

/-- The members of a volume stand from the first of them on. -/
theorem memberBlocks_volume (h : isVolumeHeader block.1) :
    memberBlocks (volumeDrives block) = memberBlocks (driveBlocks (memberLines block)) := by
  have hown : memberBlocks
      (driveBlocks (block.1 :: block.2.takeWhile (!isMemberHeader ·))) = [] := by
    rw [← List.map_eq_nil_iff, memberBlocks_headers,
      List.filter_cons_of_neg (by simp [isMemberHeader_of_isVolumeHeader h]),
      List.filter_eq_nil_iff]
    intro line hline
    simpa using List.all_eq_true.mp List.all_takeWhile line hline
  rw [volumeDrives_eq, memberBlocks_append, hown, List.nil_append]

/-! ## Sections -/

variable {part : List String}

/-- The blocks of the arrays. -/
def arrayBlocks (part : List String) : List (String × List String) :=
  (Listing.blocks isDriveSection part).filter (·.1 != unassigned)

/-- The lines of all blocks of unassigned drives. -/
def unassignedLines (part : List String) : List String :=
  ((Listing.blocks isDriveSection part).filter (·.1 == unassigned)).flatMap blockLines

/-- The blocks of the volumes of all arrays. -/
def volumeBlocks (part : List String) : List (String × List String) :=
  (arrayBlocks part).flatMap fun a => Listing.blocks isVolumeHeader (blockLines a)

/-- The lines of each array in front of its first volume. -/
def arrayFronts (part : List String) : List (List String) :=
  (arrayBlocks part).map fun a => (Listing.cut isVolumeHeader (blockLines a)).preamble

/-- When nothing stands in front of the first section, every section is an array or unassigned. -/
theorem arrays_eq (h : ∀ line ∈ part.head?, isDriveSection line) :
    arrays part = ((arrayBlocks part).map blockLines, unassignedLines part) := by
  simp only [arrays, (Listing.flatMap_blocks isDriveSection h).1, unassignedLines, arrayBlocks,
    Listing.blocks, List.partition_eq_filter_filter, List.filter_map, List.flatMap_def]
  -- the first line of a block is its header
  rfl

/-- The blocks of the kept volumes, in order. -/
def keptBlocks (part : List String) : List (String × List String) :=
  Listing.firsts diskName (volumeBlocks part)

theorem kept_volumes (h : ∀ line ∈ part.head?, isDriveSection line) :
    Listing.firsts VolumeRecord.key ((arrays part).1.flatMap volumes) =
      (keptBlocks part).map volume := by
  have hblocks : (arrays part).1.flatMap volumes = (volumeBlocks part).map volume := by
    rw [arrays_eq h, volumeBlocks, List.flatMap_map, List.map_flatMap]
    rfl
  have hkey : VolumeRecord.key ∘ volume = VolumeKey.devicePath ∘ diskName := funext volume_key
  rw [hblocks, Listing.firsts_map, hkey, keptBlocks,
    Listing.firsts_comp diskName fun _ _ => VolumeKey.devicePath.inj]

/-! ## The drives that are shown -/

/-- The lists of lines that are cut into drives: the front of each array, each volume, and the
unassigned lines one behind the other. -/
def driveLists (part : List String) : List (List String) :=
  arrayFronts part ++ (volumeBlocks part).map blockLines ++ [unassignedLines part]

/-- The blocks of all drives: the header of each, and what follows it up to the next header or to
the end of its list. -/
def shownBlocks (part : List String) : List (String × List String) :=
  (driveLists part).flatMap driveBlocks

/-- Every line about drives is in one place of one list. -/
theorem driveLists_perm (h : ∀ line ∈ part.head?, isDriveSection line) :
    (driveLists part).flatten.Perm part := by
  have harrays : ((arrayFronts part).flatten ++ (volumeBlocks part).flatMap blockLines).Perm
      ((arrayBlocks part).flatMap blockLines) := by
    rw [arrayFronts, volumeBlocks, ← List.flatMap_def, List.flatMap_assoc]
    refine (List.flatMap_append_perm _ _ _).trans (.of_eq ?_)
    simp only [Listing.preamble_append_blockLines]
  have hclasses : ((arrayBlocks part).flatMap blockLines ++ unassignedLines part).Perm part := by
    have h' := (List.filter_append_perm (·.1 != unassigned)
      (Listing.blocks isDriveSection part)).flatMap_right blockLines
    simpa [Listing.flatMap_blocks isDriveSection h, arrayBlocks, unassignedLines, bne] using h'
  rw [driveLists, List.flatten_append, List.flatten_append, List.flatten_singleton,
    ← List.flatMap_def]
  exact (harrays.append_right _).trans hclasses

/-- The header of every drive opens a block. -/
theorem shownBlocks_headers (h : ∀ line ∈ part.head?, isDriveSection line) :
    ((shownBlocks part).map Prod.fst).Perm (part.filter isDriveHeader) := by
  rw [shownBlocks, List.map_flatMap]
  simp only [driveBlocks_headers]
  rw [List.flatMap_def, ← List.filter_flatten]
  exact (driveLists_perm h).filter _

/-- No line is in two blocks. -/
theorem shownBlocks_lines (h : ∀ line ∈ part.head?, isDriveSection line) :
    ((shownBlocks part).flatMap blockLines).Subperm part := by
  have hlists : ((shownBlocks part).flatMap blockLines).Sublist (driveLists part).flatten := by
    rw [shownBlocks, List.flatMap_assoc, ← List.flatMap_id]
    exact List.Sublist.flatMap_right _ fun lines _ => driveBlocks_sublist lines
  exact hlists.subperm.trans (driveLists_perm h).subperm

theorem shownBlocks_eq (part : List String) : shownBlocks part =
    (arrayFronts part).flatMap driveBlocks ++ (volumeBlocks part).flatMap volumeDrives ++
      driveBlocks (unassignedLines part) := by
  rw [shownBlocks, driveLists, List.flatMap_append, List.flatMap_append, List.flatMap_map,
    List.flatMap_singleton]
  rfl

/-! ## Records -/

/-- Each drive record of an inventory is read from a block of its own among the drives in `part`,
and there is one for each of `members`. -/
def Recorded (part : List String) (members : List (String × List String)) (v : Inventory) : Prop :=
  ∃ blocks : List (String × List String),
    blocks.Subperm (shownBlocks part) ∧
      v.drives.Perm (blocks.map fun b => (readDrive b).1) ∧
      members.Subperm blocks

/-- The members of the kept volumes, and the unassigned drives. -/
def keptMembers (part : List String) : List (String × List String) :=
  memberBlocks ((keptBlocks part).flatMap volumeDrives ++ driveBlocks (unassignedLines part))

/-- The drives in front of the first volume of an array, and the members of volumes whose device
file an earlier one has. -/
def exceptedMembers (part : List String) : List (String × List String) :=
  memberBlocks ((arrayFronts part).flatMap driveBlocks ++
    ((volumeBlocks part).diff (keptBlocks part)).flatMap volumeDrives)

/-- What an inventory says of the drives in `part`. -/
structure Accounts (part : List String) (v : Inventory) : Prop where
  headers : ((shownBlocks part).map Prod.fst).Perm (part.filter isDriveHeader)
  lines : ((shownBlocks part).flatMap blockLines).Subperm part
  /-- A drive whose header has two words has a record, or it is excepted. -/
  members : ∃ kept,
    (memberBlocks (shownBlocks part)).Perm (kept ++ exceptedMembers part) ∧ Recorded part kept v

/-- The blocks of the recorded drives: those of the kept volumes from the first member on, and the
unassigned ones. -/
def recordedBlocks (part : List String) : List (String × List String) :=
  (keptBlocks part).flatMap (fun b => driveBlocks (memberLines b)) ++
    driveBlocks (unassignedLines part)

theorem members_perm (part : List String) :
    (memberBlocks (shownBlocks part)).Perm (keptMembers part ++ exceptedMembers part) := by
  have hvolumes : ((volumeBlocks part).flatMap volumeDrives).Perm
      ((keptBlocks part).flatMap volumeDrives ++
        ((volumeBlocks part).diff (keptBlocks part)).flatMap volumeDrives) := by
    have hdiff :=
      (Listing.firsts_append_diff diskName (volumeBlocks part)).flatMap_right volumeDrives
    simpa [keptBlocks] using hdiff.symm
  rw [shownBlocks_eq]
  refine (((hvolumes.append_left _).append_right _).filter _).trans ?_
  -- what is left is the order of the parts
  refine List.perm_iff_count.mpr fun b => ?_
  simp only [keptMembers, exceptedMembers, memberBlocks, List.filter_append, List.count_append]
  omega

/-- Every block that is read is shown, and none is read twice. -/
theorem recordedBlocks_subperm (part : List String) :
    (recordedBlocks part).Subperm (shownBlocks part) := by
  have hvolume (b : String × List String) :
      (driveBlocks (memberLines b)).Sublist (volumeDrives b) := by
    rw [volumeDrives_eq]
    exact List.sublist_append_right _ _
  have hkept : ((keptBlocks part).flatMap fun b => driveBlocks (memberLines b)).Sublist
      ((volumeBlocks part).flatMap volumeDrives) :=
    (List.Sublist.flatMap_right _ fun b _ => hvolume b).trans
      ((Listing.firsts_sublist diskName _).flatMap _)
  rw [shownBlocks_eq]
  exact ((hkept.trans (List.sublist_append_right _ _)).append (.refl _)).subperm

theorem keptMembers_sublist (part : List String) :
    (keptMembers part).Sublist (recordedBlocks part) := by
  have hvolume : ∀ b ∈ keptBlocks part,
      (memberBlocks (volumeDrives b)).Sublist (driveBlocks (memberLines b)) := by
    intro b hb
    obtain ⟨a, -, hba⟩ := List.mem_flatMap.mp ((Listing.firsts_sublist diskName _).subset hb)
    rw [memberBlocks_volume (Listing.isHeader_of_mem_blocks _ hba)]
    exact List.filter_sublist
  rw [keptMembers, recordedBlocks, memberBlocks_append]
  refine List.Sublist.append ?_ List.filter_sublist
  rw [memberBlocks, List.filter_flatMap]
  exact List.Sublist.flatMap_right _ hvolume

/-- The records of an inventory are read from its blocks. -/
theorem drives_perm (c : ListedController) (own : List String)
    (h : ∀ line ∈ part.head?, isDriveSection line) :
    (inventory c own part).drives.Perm ((recordedBlocks part).map fun b => (readDrive b).1) := by
  have hmembers : ((keptBlocks part).map volume).flatMap (·.members) =
      ((keptBlocks part).flatMap fun b => driveBlocks (memberLines b)).map
        fun b => (readDrive b).1 := by
    simp only [List.flatMap_map, List.map_flatMap, volume_members]
  have hloose : ((drives (unassignedLines part)).filter (·.2)).map (·.1) ++
      ((drives (unassignedLines part)).filter (!·.2)).map (·.1) |>.Perm
      ((driveBlocks (unassignedLines part)).map fun b => (readDrive b).1) := by
    rw [← List.map_append]
    have hclasses := (List.filter_append_perm (·.2) (drives (unassignedLines part))).map (·.1)
    rw [drives_eq_map, List.map_map] at hclasses
    rwa [drives_eq_map]
  rw [Inventory.drives, inventory, kept_volumes h, hmembers, arrays_eq h, recordedBlocks,
    List.map_append, List.append_assoc]
  exact hloose.append_left _

theorem inventory_accounts (c : ListedController) (own : List String)
    (h : ∀ line ∈ part.head?, isDriveSection line) : Accounts part (inventory c own part) where
  headers := shownBlocks_headers h
  lines := shownBlocks_lines h
  members := ⟨keptMembers part, members_perm part, recordedBlocks part,
    recordedBlocks_subperm part, drives_perm c own h, (keptMembers_sublist part).subperm⟩

/-- Every drive that the details of a controller show has one record, in one place, which is read
from its block, unless it is a member of a volume whose device file an earlier volume has, or stands
in front of the first volume of its array. -/
theorem decode_recorded {tool : Tool} {log : Logger} {c : ListedController} {v : Inventory}
    (h : (decode tool log c).outcome = .ok v) :
    ∃ output,
      (tool.run ["controller", "slot=" ++ c.adapterId, "show", "config", "detail"]).outcome =
        .ok output ∧
      Accounts (driveLines (Text.lines output)) v := by
  rw [decode_outcome, Attempt.bind_eq_ok_iff] at h
  obtain ⟨output, hrun, h⟩ := h
  have hown : (parts (Text.lines output)).1 ≠ [] := by
    intro hown
    simp [hown] at h
  have hv : inventory c (parts (Text.lines output)).1 (driveLines (Text.lines output)) = v := by
    simpa [hown, parts_snd hown] using h
  exact ⟨output, hrun, hv ▸ inventory_accounts c _ (isDriveSection_head (Text.lines output))⟩

/-- Details with two volumes of one device file, an array without a volume, and an unassigned
drive. -/
def lossyDetails : String :=
  "Smart HBA in Slot\nArray: A\nLogical Drive: 1\nDisk Name: a\nphysicaldrive 1:1\nStatus: OK\n" ++
  "Logical Drive: 2\nDisk Name: a\nphysicaldrive 1:2\nArray: B\nphysicaldrive 2:1\n" ++
  "unassigned\nphysicaldrive 1:3"

def lossyTool : Tool where
  family := .smartArray
  program := some "/usr/sbin/hpssacli"
  runner := { run := fun _ _ => .ok lossyDetails }

def slotZero : ListedController := { adapterId := "0" }

def lossyInventory : Inventory where
  controller := { adapterId := "0", battery := some false }
  volumes := [{
    key := .devicePath "a"
    label := "vol:1"
    members := [{ family := .smartArray, enclosure := "1", slot := "1", status := "OK" }] }]
  unconfigured := [{ family := .smartArray, enclosure := "1", slot := "3" }]

theorem decode_lossy : (decode lossyTool .fallback slotZero).outcome = .ok lossyInventory := by
  decide +kernel

/-- The lines about drives in these details. -/
def lossyLines : List String :=
  ["Array: A", "Logical Drive: 1", "Disk Name: a", "physicaldrive 1:1", "Status: OK",
    "Logical Drive: 2", "Disk Name: a", "physicaldrive 1:2", "Array: B", "physicaldrive 2:1",
    "unassigned", "physicaldrive 1:3"]

theorem driveLines_lossy : driveLines (Text.lines lossyDetails) = lossyLines := by decide +kernel

theorem shownBlocks_lossy : shownBlocks lossyLines =
    [("physicaldrive 2:1", []), ("physicaldrive 1:1", ["Status: OK"]), ("physicaldrive 1:2", []),
      ("physicaldrive 1:3", [])] := by
  decide +kernel

theorem exceptedMembers_lossy :
    exceptedMembers lossyLines = [("physicaldrive 2:1", []), ("physicaldrive 1:2", [])] := by
  decide +kernel

/-- The drive of the array without a volume and the member of the second volume are excepted. -/
theorem decode_recorded_lossy :
    (decode lossyTool .fallback slotZero).outcome = .ok lossyInventory ∧
      exceptedMembers (driveLines (Text.lines lossyDetails)) =
        [("physicaldrive 2:1", []), ("physicaldrive 1:2", [])] ∧
      ∃ output,
        (lossyTool.run
          ["controller", "slot=" ++ slotZero.adapterId, "show", "config", "detail"]).outcome =
            .ok output ∧
        Accounts (driveLines (Text.lines output)) lossyInventory :=
  ⟨decode_lossy, driveLines_lossy ▸ exceptedMembers_lossy, decode_recorded decode_lossy⟩

/-- Of four drives that are shown, two have a record, and neither of the excepted ones is among
them. -/
theorem lossy_not_recorded :
    (lossyTool.run
        ["controller", "slot=" ++ slotZero.adapterId, "show", "config", "detail"]).outcome =
          .ok lossyDetails ∧
      (decode lossyTool .fallback slotZero).outcome = .ok lossyInventory ∧
      (∀ b ∈ exceptedMembers (driveLines (Text.lines lossyDetails)),
        (readDrive b).1 ∉ lossyInventory.drives) ∧
      ¬Recorded (driveLines (Text.lines lossyDetails))
        (memberBlocks (shownBlocks (driveLines (Text.lines lossyDetails)))) lossyInventory := by
  rw [driveLines_lossy, exceptedMembers_lossy, shownBlocks_lossy]
  refine ⟨by decide +kernel, decode_lossy, by decide +kernel, ?_⟩
  rintro ⟨blocks, -, hdrives, hmembers⟩
  have hlength := hdrives.length_eq
  rw [List.length_map] at hlength
  have hle := hmembers.length_le
  rw [← hlength] at hle
  exact absurd hle (by decide +kernel)

end StorageInventory.SmartArray
