import Mathlib.Data.List.Nodup
import StorageInventory.Proofs.SasIr.DisplayBlocks

/-!
# SAS-IR displays are read as what they show

Decoding the text that the tool prints for a controller gives the inventory that the text stands for
(`decode_display`): the sections are found again behind their banners, their blocks give volumes and
disks, and every volume gets its members.
-/

namespace StorageInventory.SasIr

/-! ## Sections -/

/-- The lines that count, without blanks around them. -/
def counted (lines : List String) : List String := (lines.map Text.trim).filter (!isRule ·)

theorem counted_append (A B : List String) : counted (A ++ B) = counted A ++ counted B := by
  rw [counted, List.map_append, List.filter_append]
  rfl

theorem counted_flatten (ls : List (List String)) :
    counted ls.flatten = (ls.map counted).flatten := by
  rw [counted, List.map_flatten, List.filter_flatten, List.map_map]
  rfl

theorem counted_fieldLine {fs : List (String × String)} (h : ∀ f ∈ fs, IsField f) :
    counted (fs.map fieldLine) = fs.map shownField := by
  have hmap : (fs.map fieldLine).map Text.trim = fs.map shownField := List.map_map
  rw [counted, hmap, List.filter_eq_self]
  intro line hline
  obtain ⟨f, hf, rfl⟩ := List.mem_map.mp hline
  simp [(counts_of_colon (h f hf).colon_mem).noRule]

theorem counted_volume {v : ShownVolume} (h : v.Valid) (hmembers : ∀ d ∈ v.members, d.Valid)
    (i : Nat) : counted (v.lines i) = Listing.blockLines (v.block i) := by
  obtain ⟨-, hline, hcounts⟩ := header_isVolumeHeader i
  have hheader : counted [ShownVolume.header i] = [ShownVolume.header i] := by
    simp [counted, hline.1, hcounts.noRule]
  rw [ShownVolume.lines, ← List.singleton_append, counted_append, hheader,
    counted_fieldLine (h.isField hmembers)]
  rfl

theorem counted_disk {d : ShownDisk} (h : d.Valid) :
    counted d.lines = Listing.blockLines d.block := by
  have hheader : counted ["", ShownDisk.header] = [ShownDisk.header] := by decide
  have hsplit : d.lines = ["", ShownDisk.header] ++ d.fields.map fieldLine := rfl
  rw [hsplit, counted_append, hheader, counted_fieldLine h.isField]
  rfl

namespace Display
variable {d : Display}

/-- The sections of a display, each with its lines that count. -/
def sections (d : Display) : List (String × List String) := [
  ("Controller information", d.controllerFields.map shownField),
  ("IR Volume information", (d.volumes.mapIdx ShownVolume.block).flatMap Listing.blockLines),
  ("Physical device information",
    initiatorLine :: (d.disks.map ShownDisk.block).flatMap Listing.blockLines)]

theorem Valid.controllerFields_isField (h : d.Valid) : ∀ f ∈ d.controllerFields, IsField f := by
  have hkeys : ∀ key ∈ ["Controller type", "BIOS version", "Firmware version"], IsKey key := by
    decide
  have hvalues : ∀ value ∈ [d.controllerType, d.bios, d.firmware], IsLine value := by
    simp only [List.forall_mem_cons, List.not_mem_nil, false_implies, implies_true, and_true]
    exact ⟨h.controllerType, h.bios, h.firmware⟩
  intro f hf
  exact ⟨hkeys f.1 (List.mem_map_of_mem (f := (·.1)) hf),
    hvalues f.2 (List.mem_map_of_mem (f := (·.2)) hf)⟩

theorem Valid.member_valid (h : d.Valid) (hv : v ∈ d.volumes) : ∀ disk ∈ v.members, disk.Valid :=
  fun disk hdisk => h.disks disk (h.members_shown disk (List.mem_flatMap.mpr ⟨v, hv, hdisk⟩))

/-- The sections are what counts of the lines. -/
theorem Valid.counted_sectionLines (h : d.Valid) :
    counted d.sectionLines = openingLine :: d.sections.flatMap Listing.blockLines := by
  have hfront : counted ["", openingLine] = [openingLine] := by decide
  have hbanner : ∀ title ∈ ["Controller information", "IR Volume information",
      "Physical device information"], counted (bannerLines title) = [title] := by decide +kernel
  have hinitiator : counted [initiatorLine] = [initiatorLine] := by decide
  have hvolumes : counted (d.volumes.mapIdx ShownVolume.lines).flatten =
      (d.volumes.mapIdx ShownVolume.block).flatMap Listing.blockLines := by
    rw [counted_flatten, List.flatMap_def]
    refine congrArg List.flatten (List.ext_getElem (by simp) fun i hi _ => ?_)
    rw [List.length_map, List.length_mapIdx] at hi
    have hv := List.getElem_mem hi
    simpa using counted_volume (h.volumes _ hv) (h.member_valid hv) i
  have hdisks : counted (d.disks.flatMap ShownDisk.lines) =
      (d.disks.map ShownDisk.block).flatMap Listing.blockLines := by
    rw [List.flatMap_def, counted_flatten, List.map_map, List.flatMap_map, List.flatMap_def]
    refine congrArg List.flatten (List.map_congr_left fun disk hdisk => ?_)
    exact counted_disk (h.disks disk hdisk)
  rw [sectionLines]
  simp only [counted_append, hfront, hvolumes, hdisks, hinitiator,
    counted_fieldLine h.controllerFields_isField, hbanner _ List.mem_cons_self,
    hbanner _ (List.mem_cons_of_mem _ List.mem_cons_self),
    hbanner "Physical device information" (by decide)]
  simp [sections, Listing.blockLines]

/-- The lines of the sections belong to them. -/
theorem Valid.sections_counts (h : d.Valid) :
    ∀ block ∈ d.sections, (banner? block.1).isSome = true ∧ ∀ line ∈ block.2, Counts line := by
  have hfields : ∀ fs : List (String × String), (∀ f ∈ fs, IsField f) →
      ∀ line ∈ fs.map shownField, Counts line := by
    intro fs hfs line hline
    obtain ⟨f, hf, rfl⟩ := List.mem_map.mp hline
    exact counts_of_colon (hfs f hf).colon_mem
  have hbanners : ∀ title ∈ ["Controller information", "IR Volume information",
      "Physical device information"], (banner? title).isSome = true := by decide
  have hdevice : Counts ShownDisk.header := counts_of_endsWith (by decide) (by decide)
  simp only [sections, List.forall_mem_cons, List.not_mem_nil, false_implies, implies_true,
    and_true]
  refine ⟨⟨hbanners _ (by decide), hfields _ h.controllerFields_isField⟩,
    ⟨hbanners _ (by decide), fun line hline => ?_⟩,
    ⟨hbanners _ (by decide), counts_of_endsWith (by decide) (by decide), fun line hline => ?_⟩⟩
  · obtain ⟨block, hblock, hline⟩ := List.mem_flatMap.mp hline
    obtain ⟨i, hi, rfl⟩ := List.mem_mapIdx.mp hblock
    have hv := List.getElem_mem hi
    rcases List.mem_cons.mp hline with rfl | hline
    · exact (header_isVolumeHeader i).2.2
    · exact hfields _ ((h.volumes _ hv).isField (h.member_valid hv)) line hline
  · obtain ⟨block, hblock, hline⟩ := List.mem_flatMap.mp hline
    obtain ⟨disk, hdisk, rfl⟩ := List.mem_map.mp hblock
    rcases List.mem_cons.mp hline with rfl | hline
    · exact hdevice
    · exact hfields _ (h.disks disk hdisk).isField line hline

theorem Valid.notMem_lines (h : d.Valid) : ∀ line ∈ d.lines, '\n' ∉ line.toList := by
  have hfields : ∀ fs : List (String × String), (∀ f ∈ fs, IsField f) →
      ∀ line ∈ fs.map fieldLine, '\n' ∉ line.toList := by
    intro fs hfs line hline
    obtain ⟨f, hf, rfl⟩ := List.mem_map.mp hline
    exact (hfs f hf).notMem_fieldLine
  have hbanners : ∀ title ∈ ["Controller information", "IR Volume information",
      "Physical device information", "Enclosure information"],
      ∀ line ∈ bannerLines title, '\n' ∉ line.toList := by decide +kernel
  have hfront : ∀ line ∈ ["", openingLine], '\n' ∉ line.toList := by decide
  have hinitiator : ∀ line ∈ [initiatorLine], '\n' ∉ line.toList := by decide
  simp only [lines, sectionLines, List.forall_mem_append, and_assoc]
  refine ⟨hfront, hbanners _ (by decide), hfields _ h.controllerFields_isField,
    hbanners _ (by decide), fun line hline => ?_, hbanners _ (by decide), hinitiator,
    fun line hline => ?_, hbanners _ (by decide)⟩
  · obtain ⟨lines, hlines, hline⟩ := List.mem_flatten.mp hline
    obtain ⟨i, hi, rfl⟩ := List.mem_mapIdx.mp hlines
    have hv := List.getElem_mem hi
    rcases List.mem_cons.mp hline with rfl | hline
    · exact (header_isVolumeHeader i).2.1.2
    · exact hfields _ ((h.volumes _ hv).isField (h.member_valid hv)) line hline
  · obtain ⟨disk, hdisk, hline⟩ := List.mem_flatMap.mp hline
    simp only [ShownDisk.lines, List.mem_cons] at hline
    rcases hline with rfl | rfl | hline
    · decide
    · decide
    · exact hfields _ (h.disks disk hdisk).isField line hline

/-- Behind the sections that are read, nothing counts. -/
theorem Valid.content_eq (h : d.Valid) (rest : String) :
    content (Text.lines (d.text rest)) =
      openingLine :: d.sections.flatMap Listing.blockLines := by
  have hread : ∀ line ∈ counted d.sectionLines, (!isOtherBanner line) = true := by
    rw [h.counted_sectionLines, List.forall_mem_cons]
    refine ⟨by decide, fun line hline => ?_⟩
    obtain ⟨block, hblock, hline⟩ := List.mem_flatMap.mp hline
    obtain ⟨hbanner, hcounts⟩ := h.sections_counts block hblock
    rcases List.mem_cons.mp hline with rfl | hline
    · obtain ⟨kind, hkind⟩ := Option.isSome_iff_exists.mp hbanner
      simp [isOtherBanner, hkind]
    · simp [(hcounts line hline).noOther]
  have hbanner : counted (bannerLines "Enclosure information") = ["Enclosure information"] := by
    decide +kernel
  have hstop : isOtherBanner "Enclosure information" = true := by decide
  have hall : ((Text.lines (d.text rest)).map Text.trim).filter (!isRule ·) =
      counted d.sectionLines ++ "Enclosure information" :: counted (Text.lines rest) := by
    rw [text, Text.lines_join h.notMem_lines, List.filter_append, ← counted, ← counted, lines,
      counted_append, hbanner, List.append_assoc, List.singleton_append]
  rw [content, hall, List.takeWhile_append_of_pos hread,
    List.takeWhile_cons_of_neg (by simp [hstop]), List.append_nil, h.counted_sectionLines]

theorem Valid.sectionLines_eq (h : d.Valid) (rest : String) :
    outputLines .controller (d.text rest) = d.controllerFields.map shownField ∧
    outputLines .volumes (d.text rest) =
      (d.volumes.mapIdx ShownVolume.block).flatMap Listing.blockLines ∧
    outputLines .devices (d.text rest) =
      initiatorLine :: (d.disks.map ShownDisk.block).flatMap Listing.blockLines := by
  have hblocks : Listing.blocks (fun line => (banner? line).isSome)
      ([openingLine] ++ d.sections.flatMap Listing.blockLines) = d.sections := by
    refine Listing.blocks_flatMap _ (by decide) fun block hblock => ?_
    obtain ⟨hbanner, hcounts⟩ := h.sections_counts block hblock
    refine ⟨hbanner, fun line hline => ?_⟩
    rw [(hcounts line hline).noBanner]
    rfl
  rw [List.singleton_append] at hblocks
  simp only [outputLines, SasIr.sectionLines, h.content_eq, hblocks]
  simp [sections, banner?]

/-- Blocks that are all read give what each of them gives. -/
theorem filterMap_eq_of_map {read : α → Option β} {xs : List α} {ys : List β}
    (h : xs.map read = ys.map some) : xs.filterMap read = ys := by
  rw [← Function.id_comp read, ← List.filterMap_map, h, List.filterMap_map, Function.id_comp,
    List.filterMap_some]

/-- The sections of volumes and disks give the volumes and disks that are shown. -/
theorem Valid.volumes_value (h : d.Valid) (log : Logger) :
    (SasIr.volumes log ((d.volumes.mapIdx ShownVolume.block).flatMap Listing.blockLines)).value =
      d.volumes.map ShownVolume.named := by
  have hblocks : Listing.blocks isVolumeHeader
      ([] ++ (d.volumes.mapIdx ShownVolume.block).flatMap Listing.blockLines) =
        d.volumes.mapIdx ShownVolume.block := by
    refine Listing.blocks_flatMap _ (fun _ hline => absurd hline List.not_mem_nil) ?_
    intro block hblock
    obtain ⟨i, hi, rfl⟩ := List.mem_mapIdx.mp hblock
    have hv := List.getElem_mem hi
    exact ⟨(header_isVolumeHeader i).1, (h.volumes _ hv).noHeader (h.member_valid hv) i⟩
  have hread : (d.volumes.mapIdx ShownVolume.block).map blockVolume? =
      (d.volumes.map ShownVolume.named).map some := by
    refine List.ext_getElem (by simp) fun i hi _ => ?_
    rw [List.length_map, List.length_mapIdx] at hi
    have hv := List.getElem_mem hi
    simpa using (h.volumes _ hv).blockVolume?_eq (h.member_valid hv) i
  rw [List.nil_append] at hblocks
  rw [volumes_blocks, hblocks, filterMap_eq_of_map hread]

theorem Valid.disks_eq (h : d.Valid) :
    SasIr.disks (initiatorLine :: (d.disks.map ShownDisk.block).flatMap Listing.blockLines) =
      d.disks.map ShownDisk.drive := by
  have hheader : isDeviceHeader ShownDisk.header = true := by decide
  have hblocks : Listing.blocks isDeviceHeader
      ([initiatorLine] ++ (d.disks.map ShownDisk.block).flatMap Listing.blockLines) =
        d.disks.map ShownDisk.block := by
    refine Listing.blocks_flatMap _ (by decide) fun block hblock => ?_
    obtain ⟨disk, hdisk, rfl⟩ := List.mem_map.mp hblock
    exact ⟨hheader, (h.disks disk hdisk).noHeader⟩
  have hread : (d.disks.map ShownDisk.block).map blockDisk? =
      (d.disks.map ShownDisk.drive).map some := by
    rw [List.map_map, List.map_map]
    refine List.map_congr_left fun disk hdisk => ?_
    rw [Function.comp_apply, (h.disks disk hdisk).blockDisk?_eq, Function.comp_apply]
  rw [List.singleton_append] at hblocks
  rw [disks_blocks, hblocks, filterMap_eq_of_map hread]

end Display

/-! ## Members -/

section
variable {pool : List PhysicalDrive} (hnd : (pool.map PhysicalDrive.position).Nodup)
include hnd

/-- From a pool of drives at distinct places, a volume that names the places of some of them gets
those, and the others are left. -/
theorem gather_members (log : Logger) (label : String) {members : List PhysicalDrive}
    (honce : members.Nodup) (hsub : members ⊆ pool) :
    (gather log label (members.map PhysicalDrive.position) pool).value =
      (members, pool.filter (· ∉ members)) := by
  have hinj := List.inj_on_of_nodup_map hnd
  have hplaces : ((members.map PhysicalDrive.position).map id).Nodup := by
    rw [List.map_id]
    exact honce.map_on fun a ha b hb hab => hinj (hsub ha) (hsub hb) hab
  have hpicked : picked (members.map PhysicalDrive.position) pool = members := by
    have hfind : ∀ d ∈ members, pool.find? (·.position == d.position) = some d :=
      fun d hd => Pool.find?_key hnd (hsub hd)
    rw [picked, Listing.firsts_of_nodup id hplaces, List.filterMap_map]
    exact (List.filterMap_congr hfind).trans List.filterMap_some
  have hleft : pool.filter (·.position ∉ members.map PhysicalDrive.position) =
      pool.filter (· ∉ members) := by
    refine List.filter_congr fun d hd => ?_
    have hiff : d.position ∈ members.map PhysicalDrive.position ↔ d ∈ members := by
      refine ⟨fun h => ?_, List.mem_map_of_mem⟩
      obtain ⟨e, he, hed⟩ := List.mem_map.mp h
      exact hinj (hsub he) hd hed ▸ he
    simp only [hiff]
  rw [gather_value log label _ hnd, hpicked, hleft]

/-- Volumes that name the places of drives of the pool, none of them twice, get those, and the
others are left. -/
theorem assemble_members (log : Logger) (named : α → NamedVolume)
    (members : α → List PhysicalDrive) (vs : List α)
    (hplaces : ∀ v, (named v).memberPlaces = (members v).map PhysicalDrive.position)
    (honce : (vs.flatMap members).Nodup) (hsub : vs.flatMap members ⊆ pool) :
    (assemble log (vs.map named) pool).value =
      (vs.map fun v => { (named v).record with members := members v },
        pool.filter (· ∉ vs.flatMap members)) := by
  induction vs generalizing pool with
  | nil => simp [assemble]
  | cons v vs ih =>
    rw [List.flatMap_cons, List.nodup_append] at honce
    rw [List.flatMap_cons, List.append_subset] at hsub
    obtain ⟨hfirst, hrest, hne⟩ := honce
    have hgather := gather_members hnd log (named v).record.label hfirst hsub.1
    have hnd' : ((pool.filter (· ∉ members v)).map PhysicalDrive.position).Nodup :=
      hnd.sublist (List.filter_sublist.map _)
    have hsub' : vs.flatMap members ⊆ pool.filter (· ∉ members v) := by
      intro d hd
      exact List.mem_filter.mpr ⟨hsub.2 hd, decide_eq_true fun hmem => hne d hmem d hd rfl⟩
    have hleft : pool.filter (· ∉ (v :: vs).flatMap members) =
        (pool.filter (· ∉ members v)).filter (· ∉ vs.flatMap members) := by
      rw [List.filter_filter]
      refine List.filter_congr fun d _ => ?_
      rw [List.flatMap_cons]
      simp [Bool.and_comm]
    rw [← hplaces] at hgather
    simp only [List.map_cons, assemble, Traced.value_bind, Traced.value_pure, hgather,
      ih hnd' hrest hsub', hleft]

end

/-! ## Inventories -/

namespace Display
variable {d : Display}

theorem isBlank_text (d : Display) (rest : String) : Text.isBlank (d.text rest) = false := by
  have hline : openingLine ∈ d.lines := by
    simp [lines, sectionLines]
  rw [Text.isBlank, List.all_eq_false]
  refine ⟨'R', ?_, by decide⟩
  rw [text, String.toList_append, String.toList_join]
  exact List.mem_append_left _
    (List.mem_flatMap.mpr ⟨_, List.mem_map_of_mem hline, List.mem_cons_self⟩)

/-- The controller, the volumes and the disks of a display are kept as they are shown. -/
theorem Valid.kept (h : d.Valid) (log : Logger) (rest : String) :
    (Listing.fields ":" (outputLines .controller (d.text rest))).foldl setControllerField {} =
        { firmware := d.firmware, bios := d.bios } ∧
      keptVolumes log (d.text rest) = d.volumes.map ShownVolume.named ∧
      keptDisks (d.text rest) = d.disks.map ShownDisk.drive := by
  obtain ⟨hcontroller, hvolumes, hdevices⟩ := h.sectionLines_eq rest
  refine ⟨?_, ?_, ?_⟩
  · rw [hcontroller, fields_shownField h.controllerFields_isField]
    simp [controllerFields, setControllerField]
  · have hkeys : ((d.volumes.map ShownVolume.named).map (·.record.key)).Nodup := by
      have hinj : Function.Injective fun s : String => VolumeKey.sasAddress ("0x" ++ s) := by
        intro s t hst
        simpa using hst
      have hmap := h.wwids.map hinj
      rwa [List.map_map] at hmap ⊢
    rw [keptVolumes, hvolumes, h.volumes_value, Listing.firsts_of_nodup _ hkeys]
  · have hplaces : ((d.disks.map ShownDisk.drive).map PhysicalDrive.position).Nodup := by
      rw [List.map_map]
      exact h.places
    rw [keptDisks, hdevices, h.disks_eq, Listing.firsts_of_nodup _ hplaces]

/-- Each volume of a display gets its members, and the other disks are left. -/
theorem Valid.assembled (h : d.Valid) (log : Logger) :
    (assemble log (d.volumes.map ShownVolume.named) (d.disks.map ShownDisk.drive)).value =
      (d.volumes.map ShownVolume.record,
        (d.disks.filter (· ∉ d.members)).map ShownDisk.drive) := by
  have hplaces : ((d.disks.map ShownDisk.drive).map PhysicalDrive.position).Nodup := by
    rw [List.map_map]
    exact h.places
  have hinj : ∀ a ∈ d.disks, ∀ b ∈ d.disks, a.drive = b.drive → a = b := by
    intro a ha b hb hab
    exact List.inj_on_of_nodup_map h.places ha hb (congrArg PhysicalDrive.position hab)
  have hmembers : d.volumes.flatMap (fun v => v.members.map ShownDisk.drive) =
      d.members.map ShownDisk.drive := (List.map_flatMap ..).symm
  have hplaced : ∀ v : ShownVolume, v.named.memberPlaces =
      (v.members.map ShownDisk.drive).map PhysicalDrive.position := by
    intro v
    rw [List.map_map]
    rfl
  have hassembled := assemble_members hplaces log ShownVolume.named
    (fun v => v.members.map ShownDisk.drive) d.volumes hplaced
    (hmembers ▸ h.members_once.map_on fun a ha b hb =>
      hinj a (h.members_shown a ha) b (h.members_shown b hb))
    (hmembers ▸ List.map_subset _ fun _ hdisk => h.members_shown _ hdisk)
  have hleft : (d.disks.map ShownDisk.drive).filter (· ∉ d.members.map ShownDisk.drive) =
      (d.disks.filter (· ∉ d.members)).map ShownDisk.drive := by
    rw [List.filter_map]
    refine congrArg _ (List.filter_congr fun disk hdisk => ?_)
    have hiff : disk.drive ∈ d.members.map ShownDisk.drive ↔ disk ∈ d.members := by
      refine ⟨fun hmem => ?_, List.mem_map_of_mem⟩
      obtain ⟨other, hother, hdrive⟩ := List.mem_map.mp hmem
      exact hinj other (h.members_shown other hother) disk hdisk hdrive ▸ hother
    simp only [Function.comp_apply, hiff]
  rw [hassembled, hmembers, hleft]
  rfl

end Display

/-- Decoding the text of a display gives its inventory, whatever the text goes on with behind the
sections that are read. -/
theorem decode_display (tool : Tool) (log : Logger) (c : ListedController) {d : Display}
    (h : d.Valid) (rest : String) (hprogram : tool.program = some path)
    (hrun : tool.runner.run path [c.adapterId, "DISPLAY"] = .ok (d.text rest)) :
    (decode tool log c).outcome = .ok (d.inventory c) := by
  have houtput := Tool.run_of_text hprogram hrun (d.isBlank_text rest)
  obtain ⟨hrecord, hvolumes, hdisks⟩ := h.kept log rest
  obtain ⟨-, -, hdevices⟩ := h.sectionLines_eq rest
  rw [outputLines] at hdevices hrecord
  rw [keptVolumes, outputLines] at hvolumes
  rw [keptDisks, outputLines] at hdisks
  rw [decode_outcome, houtput, Attempt.ok_bind]
  simp only [hrecord, hvolumes, hdisks, h.assembled]
  rw [if_neg (by simp [hdevices])]
  rfl

/-- The disk of a slot of the first enclosure. -/
def slotDisk (slot : String) : ShownDisk where
  enclosure := "1"
  slot
  sasAddress := "5003048-0-0928-260" ++ slot
  status := "Optimal (OPT)"
  megabytes := 381554
  sectors := 781422768
  model := "INTEL: SSDSC2"
  type := "SATA_SSD"

/-- A mirror of the disks of slots 2 and 0, and one more disk. -/
def mirrorDisplay : Display where
  controllerType := "SAS3008"
  firmware := "16:00"
  volumes := [{
    id := 323, status := "Okay (OKY)", wwid := "0E8f", level := ("RAID1E", .raid1)
    megabytes := 17592186044415, members := [slotDisk "2", slotDisk "0"] }]
  disks := [slotDisk "0", slotDisk "1", slotDisk "2"]

/-- Lines that would be a disk, were they not behind the banner of the enclosures. -/
def enclosureText : String :=
  "Physical device information\nDevice is a Hard disk\nSize (in MB)/(in sectors) : 1/1\n"

def mirrorTool : Tool where
  family := .sasIr
  program := some "/usr/sbin/sas3ircu"
  runner := { run := fun _ _ => .ok (mirrorDisplay.text enclosureText) }

/-- The record of `slotDisk`. -/
def slotDrive (slot : String) : PhysicalDrive where
  family := .sasIr
  enclosure := "1"
  slot
  model := "INTEL: SSDSC2"
  size := 400088367104
  rotation := 1
  status := "Optimal (OPT)"
  ids.sasAddress := some ("0x500304800928260" ++ slot)

/-- Members come in the order of their volume, whatever colons their texts have, and the greatest
number of megabytes loses nothing. -/
theorem decode_display_mirror :
    mirrorDisplay.Valid ∧
    (decode mirrorTool .fallback adapterZero).outcome = .ok {
      controller := { adapterId := "0", firmware := "16:00" }
      volumes := [{
        key := .sasAddress "0x0e8f", label := "vol:323", level := .raid1
        size := 18446744073708503040, status := "Okay (OKY)"
        members := [slotDrive "2", slotDrive "0"] }]
      exposed := [slotDrive "1"] } := by
  have hvalid : mirrorDisplay.Valid := by decide +kernel
  refine ⟨hvalid, ?_⟩
  rw [decode_display mirrorTool .fallback adapterZero hvalid enclosureText rfl rfl]
  decide +kernel

end StorageInventory.SasIr
