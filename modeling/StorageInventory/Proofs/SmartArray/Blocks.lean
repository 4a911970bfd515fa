import StorageInventory.Proofs.SmartArray.Drives

/-!
# Smart Array lines block by block

The lines about arrays and drives are cut twice: into sections, of which each is an array or a list
of unassigned drives, and these into the blocks of drives. Main statements: a cut into sections
loses no line and moves none (`arrays_eq_sections`), and a drive is what the lines of its own block
say, whatever blocks of enclosures and expanders stand around it (`lines_by_block`).
-/

namespace StorageInventory.SmartArray

open Listing (blockLines)

variable {A B body : List String}

/-! ## Sections -/

/-- The sections that lines are cut into. Every section but the first begins with a header, and no
header stands further inside. -/
structure Sections (lines : List String) (sections : List (List String)) : Prop where
  lossless : sections.flatten = lines
  ne_nil : [] ∉ sections
  opened : ∀ s ∈ sections.tail, ∀ line ∈ s.head?, isDriveSection line = true
  closed : ∀ s ∈ sections, ∀ line ∈ s.tail, isDriveSection line = false

/-- Whether the lines of a section are about unassigned drives. -/
def isUnassigned (lines : List String) : Bool := lines.head? == some unassigned

/-- The lines in front of the first header, if there are any, and those from each header on. -/
def sections (lines : List String) : List (List String) :=
  let cut := Listing.cut isDriveSection lines
  (if cut.preamble.isEmpty then [] else [cut.preamble]) ++ cut.blocks.map blockLines

theorem sections_spec (lines : List String) : Sections lines (sections lines) := by
  have hpreamble := Listing.preamble_noHeader isDriveSection lines
  have hblocks : ∀ b ∈ (Listing.cut isDriveSection lines).blocks,
      isDriveSection b.1 = true ∧ ∀ line ∈ b.2, isDriveSection line = false :=
    fun b hb => ⟨Listing.isHeader_of_mem_blocks _ hb, Listing.body_noHeader _ _ hb⟩
  have hlossless := Listing.preamble_append_blockLines isDriveSection lines
  rw [Listing.blocks, List.flatMap_def] at hlossless
  unfold sections
  generalize Listing.cut isDriveSection lines = cut at *
  obtain ⟨preamble, blocks⟩ := cut
  dsimp only at hpreamble hblocks hlossless ⊢
  have hopened : ∀ s ∈ blocks.map blockLines, ∀ line ∈ s.head?, isDriveSection line = true := by
    intro s hs line hline
    obtain ⟨b, hb, rfl⟩ := List.mem_map.mp hs
    exact Option.some.inj hline ▸ (hblocks b hb).1
  have hclosed : ∀ s ∈ blocks.map blockLines, ∀ line ∈ s.tail, isDriveSection line = false := by
    intro s hs
    obtain ⟨b, hb, rfl⟩ := List.mem_map.mp hs
    exact (hblocks b hb).2
  have hne : [] ∉ blocks.map blockLines := by
    intro h
    obtain ⟨b, -, hb⟩ := List.mem_map.mp h
    cases hb
  cases preamble with
  | nil => exact ⟨hlossless, hne, fun s hs => hopened s (List.mem_of_mem_tail hs), hclosed⟩
  | cons line preamble =>
    refine ⟨hlossless, ?_, hopened, ?_⟩
    · exact fun h => (List.mem_cons.mp h).elim (fun h => by cases h) hne
    · intro s hs
      rcases List.mem_cons.mp hs with rfl | hs
      · exact (List.forall_mem_cons.mp hpreamble).2
      · exact hclosed s hs

/-- The arrays are the sections that are not about unassigned drives, and the unassigned lines are
those of the others. -/
theorem arrays_eq_sections (lines : List String) :
    arrays lines = ((sections lines).filter (!isUnassigned ·),
      ((sections lines).filter isUnassigned).flatten) := by
  have hpreamble := Listing.preamble_noHeader isDriveSection lines
  unfold arrays sections
  generalize Listing.cut isDriveSection lines = cut at *
  obtain ⟨preamble, blocks⟩ := cut
  dsimp only at hpreamble ⊢
  rw [List.partition_eq_filter_filter]
  cases preamble with
  | nil => rfl
  | cons line preamble =>
    have hfirst : isUnassigned (line :: preamble) = false := by
      have hline := (List.forall_mem_cons.mp hpreamble).1
      refine beq_eq_false_iff_ne.mpr fun h => ?_
      cases h
      cases hline
    simp only [List.isEmpty_cons, Bool.false_eq_true, if_false, List.singleton_append,
      List.filter_cons, hfirst, Bool.not_false, if_true]
    rfl

/-! ## Drives -/

theorem drives_append (A : List String) (h : ∀ b ∈ B.head?, isHeader b) :
    drives (A ++ B) = drives A ++ drives B := by
  rw [drives_eq_map, driveBlocks_append A h, List.map_append, ← drives_eq_map, ← drives_eq_map]

/-- Lines without a drive give none. -/
theorem drives_of_noDrive (h : ∀ line ∈ A, isDriveHeader line = false) : drives A = [] := by
  have hblocks : driveBlocks A = [] := by
    rw [← List.map_eq_nil_iff, driveBlocks_headers, List.filter_eq_nil_iff]
    intro line hline
    simp [h line hline]
  rw [drives_eq_map, hblocks, List.map_nil]

theorem drives_block (hheader : isDriveHeader header)
    (hbody : ∀ line ∈ body, isHeader line = false) :
    drives (header :: body) = [readDrive (header, body)] := by
  have hopens : isHeader header := by simp [isHeader, hheader]
  simp [drives, Listing.blocks_cons isHeader hopens hbody, drive?, hheader, readDrive]

/-- A block without a drive might as well not be there. -/
theorem drives_without (A : List String) (hheader : isHeader header)
    (hbody : ∀ line ∈ header :: body, isDriveHeader line = false)
    (h : ∀ b ∈ B.head?, isHeader b) :
    drives (A ++ header :: body ++ B) = drives (A ++ B) := by
  rw [drives_append _ h, drives_append _ h, drives_append A (by simpa using hheader),
    drives_of_noDrive hbody, List.append_nil]

/-- Lines about arrays and drives are read block by block. -/
structure ReadByBlock : Prop where
  /-- Every line is in one array or in one place among the unassigned lines, and both keep the order
  of the lines. -/
  split : ∀ lines, ∃ parts, Sections lines parts ∧
    arrays lines = (parts.filter (!isUnassigned ·), (parts.filter isUnassigned).flatten)
  split_perm : ∀ lines, ((arrays lines).1.flatten ++ (arrays lines).2).Perm lines
  /-- There is one drive for each header of a drive, and it begins with what its header says. -/
  headers : ∀ lines, ∃ blocks : List (String × List String),
    drives lines = blocks.map readDrive ∧ blocks.map Prod.fst = lines.filter isDriveHeader ∧
      (blocks.flatMap blockLines).Sublist lines
  append : ∀ A B, (∀ b ∈ B.head?, isHeader b) → drives (A ++ B) = drives A ++ drives B
  drive : ∀ header body, isDriveHeader header → (∀ line ∈ body, isHeader line = false) →
    drives (header :: body) = [readDrive (header, body)]
  /-- Neither the lines in front of the first drive nor a block without one change what is read. -/
  preamble : ∀ A B, (∀ line ∈ A, isDriveHeader line = false) → (∀ b ∈ B.head?, isHeader b) →
    drives (A ++ B) = drives B
  without : ∀ A header body B, isHeader header →
    (∀ line ∈ header :: body, isDriveHeader line = false) → (∀ b ∈ B.head?, isHeader b) →
    drives (A ++ header :: body ++ B) = drives (A ++ B)

theorem lines_by_block : ReadByBlock where
  split lines := ⟨sections lines, sections_spec lines, arrays_eq_sections lines⟩
  split_perm := by
    intro lines
    rw [arrays_eq_sections]
    conv => rhs; rw [← (sections_spec lines).lossless]
    have hclasses := (List.filter_append_perm isUnassigned (sections lines)).flatten
    rw [List.flatten_append] at hclasses
    exact List.perm_append_comm.trans hclasses
  headers lines :=
    ⟨driveBlocks lines, drives_eq_map lines, driveBlocks_headers lines, driveBlocks_sublist lines⟩
  append A _ := drives_append A
  drive _ _ := drives_block
  preamble A B hA hB := by rw [drives_append A hB, drives_of_noDrive hA, List.nil_append]
  without A _ _ _ := drives_without A

/-- An enclosure that is told with the keys of drives. -/
def enclosureFields : List String :=
  ["Status: Failed", "Port: 9I", "Box: 9", "Drive exposed to OS: true"]

/-- The two drives between and around which an enclosure is told are those that are told alone. -/
theorem lines_by_block_enclosures :
    drives (["Status: Lost"] ++ (["physicaldrive 1I:1:1", "Bay: 4", "Status: OK"] ++
        "Enclosure at Port 9I" :: enclosureFields ++
        ["physicaldrive 1I:1:2", "Drive exposed to OS: true"])) =
      [({ family := .smartArray, enclosure := "1I:1", slot := "4", status := "OK" }, false),
        ({ family := .smartArray, enclosure := "1I:1", slot := "2" }, true)] := by
  have h := lines_by_block
  rw [h.preamble _ _ (by decide +kernel) (by decide +kernel),
    h.without _ _ _ _ (by decide +kernel) (by decide +kernel) (by decide +kernel),
    h.append _ _ (by decide +kernel),
    h.drive "physicaldrive 1I:1:1" _ (by decide +kernel) (by decide +kernel),
    h.drive "physicaldrive 1I:1:2" _ (by decide +kernel) (by decide +kernel)]
  decide +kernel

end StorageInventory.SmartArray
