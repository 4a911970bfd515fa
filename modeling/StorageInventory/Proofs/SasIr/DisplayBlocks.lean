import StorageInventory.Proofs.Number.Exact
import StorageInventory.Proofs.SasIr.Blocks
import StorageInventory.Proofs.SasIr.Display

/-!
# The lines and blocks of a display

What is read of the lines that the SAS-IR tool prints: a line gives back its key and value
(`IsField.keyValue?_eq`), the block of a disk its disk (`ShownDisk.Valid.blockDisk?_eq`), and the
block of a volume its volume with the places of its members (`ShownVolume.Valid.blockVolume?_eq`).
-/

namespace StorageInventory.SasIr
variable {line : String} {f : String × String} {log : Logger}

/-! ## Lines that count -/

/-- A line, without blanks around it, that belongs to the section it stands in. -/
structure Counts (line : String) : Prop where
  noRule : isRule line = false
  noBanner : banner? line = none
  noOther : isOtherBanner line = false

theorem banner?_endsWith (h : banner? line = some kind) :
    Text.endsWith line "information" = true ∧ ':' ∉ line.toList := by
  unfold banner? at h
  split at h
  · decide
  · decide
  · decide
  · cases h

/-- A line with a colon is no rule and no banner. -/
theorem counts_of_colon (h : ':' ∈ line.toList) : Counts line where
  noRule := by
    rw [isRule, List.all_eq_false]
    exact ⟨':', h, by decide⟩
  noBanner := by
    rw [Option.eq_none_iff_forall_ne_some]
    exact fun kind hkind => (banner?_endsWith hkind).2 h
  noOther := by
    have hmark : ":" = String.singleton ':' := by decide
    have hholds : Text.holds line ":" = true := by rwa [hmark, Text.holds_singleton]
    simp [isOtherBanner, hholds]

/-- A line that does not end like a banner is none. -/
theorem counts_of_endsWith (hrule : isRule line = false)
    (h : Text.endsWith line "information" = false) : Counts line where
  noRule := hrule
  noBanner := by
    rw [Option.eq_none_iff_forall_ne_some]
    exact fun kind hkind => Bool.false_ne_true (h.symm.trans (banner?_endsWith hkind).1)
  noOther := by simp [isOtherBanner, h]

/-! ## Keys and values -/

/-- A key and a value that a line holds. -/
structure IsField (f : String × String) : Prop where
  key : IsKey f.1
  value : IsLine f.2

/-- What is read of the line of a field. -/
def shownField (f : String × String) : String := Text.trim (fieldLine f)

theorem isLine_iff {s : String} : IsLine s ↔ Chars.Trimmed s.toList ∧ '\n' ∉ s.toList := by
  refine and_congr_left fun _ => ⟨fun h => ?_, fun h => ?_⟩
  · have htrim := congrArg String.toList h
    rw [Text.trim, String.toList_ofList] at htrim
    rw [← htrim]
    exact Chars.trimmed_trim _
  · rw [Text.trim, h.trim_eq, String.ofList_toList]

theorem IsLine.trimmed {s : String} (h : IsLine s) : Chars.Trimmed s.toList := (isLine_iff.mp h).1

theorem isLine_of_notBlank {s : String} (h : ∀ c ∈ s.toList, Chars.isBlank c = false) :
    IsLine s :=
  isLine_iff.mpr ⟨Chars.trimmed_of_notBlank h, fun hfeed => Bool.false_ne_true (h _ hfeed).symm⟩

theorem isBlank_of_mem_toString {n : Nat} (h : c ∈ (toString n).toList) :
    Chars.isBlank c = false :=
  Chars.isBlank_of_isDigit (Numeral.isDigit_of_mem_toString h)

theorem isLine_toString (n : Nat) : IsLine (toString n) :=
  isLine_of_notBlank fun _ hc => isBlank_of_mem_toString hc

/-- The key, spaces, a colon, and the value behind it. -/
theorem IsField.toList_shownField (h : IsField f) :
    ∃ spaces after, (shownField f).toList =
        f.1.toList ++ List.replicate spaces ' ' ++ ':' :: after ∧
      Chars.trim after = f.2.toList := by
  obtain ⟨key, value⟩ := f
  obtain ⟨⟨hkey, hne, -⟩, hvalue⟩ := h
  have hne : key.toList ≠ [] := fun he => hne (String.toList_eq_nil_iff.mp he)
  have hchars : (fieldLine (key, value)).toList =
      ' ' :: ' ' :: (key.toList ++ List.replicate (40 - key.length) ' ' ++ ':' :: ' ' ::
        value.toList) := by
    simp [fieldLine, Table.pad]
  refine ⟨40 - key.length, ?_⟩
  rw [shownField, Text.trim, String.toList_ofList, hchars, Chars.trim_cons_of_blank rfl,
    Chars.trim_cons_of_blank rfl]
  rcases hempty : value.toList with _ | ⟨c, cs⟩
  · refine ⟨[], ?_, rfl⟩
    have hcolon : Chars.Trimmed [':'] := Chars.trimmed_of_trim_eq (by decide)
    have htrimmed := hkey.trimmed.append hcolon hne (by decide)
      (List.replicate (40 - key.length) ' ')
    have hconcat := Chars.trim_concat_of_blank
      (key.toList ++ List.replicate (40 - key.length) ' ' ++ [':']) (c := ' ') rfl
    rw [List.append_assoc _ [':']] at hconcat
    exact hconcat.trans htrimmed.trim_eq
  · have hvalue := hvalue.trimmed
    refine ⟨' ' :: value.toList, ?_, ?_⟩
    · have htrimmed := hkey.trimmed.append hvalue hne (hempty ▸ List.cons_ne_nil c cs)
        (List.replicate (40 - key.length) ' ' ++ [':', ' '])
      rw [hempty] at htrimmed ⊢
      simpa using htrimmed.trim_eq
    · rw [Chars.trim_cons_of_blank rfl, hvalue.trim_eq, hempty]

theorem IsField.colon_mem (h : IsField f) : ':' ∈ (shownField f).toList := by
  obtain ⟨spaces, after, hchars, -⟩ := h.toList_shownField
  rw [hchars]
  exact List.mem_append_right _ List.mem_cons_self

theorem IsField.notMem_fieldLine (h : IsField f) : '\n' ∉ (fieldLine f).toList := by
  have hpad : '\n' ∉ List.replicate (40 - f.1.length) ' ' :=
    fun hmem => absurd (List.eq_of_mem_replicate hmem) (by decide)
  simp [fieldLine, Table.pad, h.key.1.2, h.value.2]

/-- The key is padded in front of its colon, and the padding is gone when the field is read. -/
theorem IsField.keyValue?_eq (h : IsField f) : Text.keyValue? (shownField f) ":" = some f := by
  obtain ⟨spaces, after, hchars, hafter⟩ := h.toList_shownField
  have htrim : Text.trim (shownField f) = shownField f := Text.trim_trim _
  have hcolon : ':' ∉ f.1.toList ++ List.replicate spaces ' ' := by
    rw [List.mem_append, not_or]
    exact ⟨h.key.2.2, fun hspace => absurd (List.eq_of_mem_replicate hspace) (by decide)⟩
  have hkey : Chars.trim (f.1.toList ++ List.replicate spaces ' ') = f.1.toList := by
    rw [Chars.trim_append_spaces, h.key.1.trimmed.trim_eq]
  have hread := Text.keyValue?_of_cut (htrim ▸ hchars) hcolon
  rw [hkey, hafter, String.ofList_toList, String.ofList_toList] at hread
  exact hread

/-- Fields are read back as they are shown. -/
theorem fields_shownField {fs : List (String × String)} (h : ∀ f ∈ fs, IsField f) :
    Listing.fields ":" (fs.map shownField) = fs := by
  induction fs with
  | nil => rfl
  | cons f fs ih =>
    rw [List.forall_mem_cons] at h
    rw [Listing.fields, List.map_cons, List.filterMap_cons, h.1.keyValue?_eq, ← Listing.fields,
      ih h.2]

/-- A line does not begin with a text that parts from the front of its key. -/
theorem IsField.not_beginsWith (h : IsField f) {front start : String}
    (hfront : Text.beginsWith f.1 front = true) (hstart : Text.beginsWith start front = false)
    (hback : Text.beginsWith front start = false) :
    Text.beginsWith (shownField f) start = false := by
  obtain ⟨spaces, after, hchars, -⟩ := h.toList_shownField
  rw [← Bool.not_eq_true, Text.beginsWith_iff]
  intro hline
  have hkey : front.toList <+: (shownField f).toList := by
    rw [hchars, List.append_assoc]
    exact (Text.beginsWith_iff.mp hfront).trans (List.prefix_append _ _)
  rcases List.prefix_or_prefix_of_prefix hkey hline with hp | hp
  · exact Bool.false_ne_true (hstart.symm.trans (Text.beginsWith_iff.mpr hp))
  · exact Bool.false_ne_true (hback.symm.trans (Text.beginsWith_iff.mpr hp))

/-! ## Disks -/

section
variable {d : ShownDisk}

/-- The size in front of the slash counts, and it fits a word. -/
theorem megabytes_shown {m : Nat} (h : m * (1024 * 1024) < UInt64.size) (sectors : Nat) :
    megabytes (toString m ++ "/" ++ toString sectors) = UInt64.ofNat (m * (1024 * 1024)) := by
  have hslash : '/' ∉ (toString m).toList :=
    fun hmem => absurd (Numeral.isDigit_of_mem_toString hmem) (by decide)
  have hcut : Text.cut (toString m ++ "/" ++ toString sectors) "/" =
      some (toString m, toString sectors) := by
    have hchars : (toString m ++ "/" ++ toString sectors).toList =
        (toString m).toList ++ '/' :: (toString sectors).toList := by simp
    have hread := Chars.cut_singleton hslash (toString sectors).toList
    rw [Text.cut, hchars, show "/".toList = ['/'] from rfl, hread]
    simp only [Option.map_some, String.ofList_toList]
  have hm : m < UInt64.size := Nat.lt_of_le_of_lt (Nat.le_mul_of_pos_right m (by decide)) h
  rw [megabytes, hcut]
  simp only [(isLine_toString m).1, Numeral.word64?_toString hm, Option.getD_some]
  rw [UInt64.ofNat_mul]
  rfl

/-- A key in the block of a disk is no header. -/
theorem isKey_of_mem_diskKeys (h : key ∈ d.fields.map (·.1)) :
    IsKey key ∧ Text.beginsWith "Device is a" key = false ∧
      Text.beginsWith key "Device is a" = false := by
  have hall : ∀ key ∈ ["Enclosure #", "Slot #", "SAS Address", "State", "Size (in MB)/(in sectors)",
      "Model Number", "Firmware Revision", "Serial No", "Protocol", "Drive Type"],
      IsKey key ∧ Text.beginsWith "Device is a" key = false ∧
        Text.beginsWith key "Device is a" = false := by decide
  exact hall key h

/-- Every field of a disk can be shown on a line. -/
theorem ShownDisk.Valid.isField (h : d.Valid) : ∀ f ∈ d.fields, IsField f := by
  have haddress : IsLine d.sasAddress := isLine_of_notBlank fun _ hc => h.sasAddress.isBlank hc
  have hsize : IsLine (toString d.megabytes ++ "/" ++ toString d.sectors) := by
    refine isLine_of_notBlank fun c hc => ?_
    simp only [String.toList_append, List.mem_append] at hc
    rcases hc with (hc | hc) | hc
    · exact isBlank_of_mem_toString hc
    · obtain rfl := List.mem_singleton.mp hc
      rfl
    · exact isBlank_of_mem_toString hc
  have hvalues : ∀ value ∈ d.fields.map (·.2), IsLine value := by
    simp only [fields, List.map_cons, List.map_nil, List.forall_mem_cons, List.not_mem_nil,
      false_implies, implies_true, and_true]
    exact ⟨h.enclosure, h.slot, haddress, h.status, hsize, h.model, h.firmware, h.serial,
      h.protocol, h.type⟩
  intro f hf
  exact ⟨(isKey_of_mem_diskKeys (List.mem_map_of_mem hf)).1, hvalues _ (List.mem_map_of_mem hf)⟩

theorem ShownDisk.Valid.isLine_place (h : d.Valid) : IsLine d.place := by
  have hchars : d.place.toList = d.enclosure.toList ++ ':' :: d.slot.toList := by simp [place]
  rw [isLine_iff, hchars, List.mem_append, List.mem_cons, not_or, not_or]
  exact ⟨h.enclosure.trimmed.append_cons h.slot.trimmed rfl, h.enclosure.2, by decide, h.slot.2⟩

/-- The block of a disk. -/
def ShownDisk.block (d : ShownDisk) : String × List String :=
  (header, d.fields.map shownField)

/-- No field of a disk opens the block of another device. -/
theorem ShownDisk.Valid.noHeader (h : d.Valid) :
    ∀ line ∈ d.block.2, isDeviceHeader line = false := by
  intro line hline
  obtain ⟨f, hf, rfl⟩ := List.mem_map.mp hline
  obtain ⟨-, hstart, hback⟩ := isKey_of_mem_diskKeys (List.mem_map_of_mem hf)
  exact (h.isField f hf).not_beginsWith (Text.beginsWith_iff.mpr (List.prefix_refl _)) hstart hback

/-- The block of a disk is read as that disk. -/
theorem ShownDisk.Valid.device_eq (h : d.Valid) :
    device d.block = { drive := d.drive, type := d.type } := by
  have hsize := megabytes_shown h.megabytes.2 d.sectors
  have haddress := Identifier.canonical?_of_dashed h.sasAddress
  rw [device, block, fields_shownField h.isField]
  simp only [fields, List.foldl_cons, List.foldl_nil, setDeviceField, hsize, haddress]
  cases hsolid : Text.holds (Text.upper d.type) "SSD" <;> simp [drive, hsolid]

theorem ShownDisk.Valid.size_ne (h : d.Valid) : d.drive.size ≠ 0 := by
  intro hzero
  have hsize : d.drive.size.toNat = d.megabytes * (1024 * 1024) :=
    UInt64.toNat_ofNat_of_lt' h.megabytes.2
  rw [hzero] at hsize
  exact absurd hsize (Nat.mul_pos h.megabytes.1 (by decide)).ne

/-- A shown disk is kept as the drive that it shows. -/
theorem ShownDisk.Valid.blockDisk?_eq (h : d.Valid) : blockDisk? d.block = some d.drive := by
  have hdisk : (device d.block).isDisk = true := by
    have hstatus : d.drive.status ≠ "Missing (MIS)" := h.present
    simp [h.device_eq, Device.isDisk, h.size_ne, hstatus, h.noEnclosure, h.determined]
  rw [blockDisk?, if_pos hdisk, h.device_eq]

end

/-! ## Volumes -/

theorem setVolumeField_of_isPlace (v : NamedVolume) (h : isPlace f = true) :
    setVolumeField v f = { v with memberPlaces := v.memberPlaces ++ [f.2] } := by
  obtain ⟨key, value⟩ := f
  have hsize : Text.beginsWith key "Size (in" = false := by
    rw [← Bool.not_eq_true]
    exact fun hsize => Bool.false_ne_true ((not_isPlace_of_isSize hsize).symm.trans h)
  have hne : ∀ name, Text.beginsWith name "PHY[" = false → key ≠ name := by
    rintro name hname rfl
    rw [isPlace, Bool.and_eq_true] at h
    exact Bool.false_ne_true (hname.symm.trans h.1)
  simp only [setVolumeField, hsize, Bool.false_eq_true, if_false]
  split
  · exact absurd rfl (hne _ (by decide))
  · exact absurd rfl (hne _ (by decide))
  · exact absurd rfl (hne _ (by decide))
  · exact absurd rfl (hne _ (by decide))
  · exact if_pos h

/-- Places are gathered in the order in which they are shown. -/
theorem foldl_places {fs : List (String × String)} (h : ∀ f ∈ fs, isPlace f = true)
    (v : NamedVolume) :
    fs.foldl setVolumeField v = { v with memberPlaces := v.memberPlaces ++ fs.map (·.2) } := by
  induction fs generalizing v with
  | nil => simp
  | cons f fs ih =>
    rw [List.forall_mem_cons] at h
    rw [List.foldl_cons, setVolumeField_of_isPlace v h.1, ih h.2]
    simp

theorem setVolumeField_size (v : NamedVolume) (value : String) :
    setVolumeField v ("Size (in MB)", value) =
      { v with record.size := Size.inUnits value (1024 * 1024) } := by
  have hkey : Text.beginsWith "Size (in MB)" "Size (in" = true := by decide
  have hunit : Size.unitBytes .binary (sizeUnit "Size (in MB)") = 1024 * 1024 := by decide
  have hread : setVolumeField v ("Size (in MB)", value) =
      { v with
        record.size := Size.inUnits value (Size.unitBytes .binary (sizeUnit "Size (in MB)")) } := by
    unfold setVolumeField
    exact if_pos hkey
  rw [hread, hunit]

theorem setVolumeField_id (v : NamedVolume) (id : UInt32) :
    setVolumeField v ("Volume ID", toString id) =
      { v with record.label := "vol:" ++ toString id } := by
  have hkey : ¬Text.beginsWith "Volume ID" "Size (in" = true := by decide
  unfold setVolumeField
  dsimp only
  rw [if_neg hkey, Numeral.word32?_toString]
  rfl

theorem setVolumeField_other (v : NamedVolume) (value : String) :
    setVolumeField v ("Status of volume", value) = { v with record.status := value } ∧
    setVolumeField v ("Volume wwid", value) = { v with wwid := value } ∧
    setVolumeField v ("RAID level", value) = { v with record.level := .ofTable levels value } ∧
    setVolumeField v ("Physical hard disks", value) = v := by
  have hsize : ∀ key ∈ ["Status of volume", "Volume wwid", "RAID level", "Physical hard disks"],
      ¬Text.beginsWith key "Size (in" = true := by decide
  unfold setVolumeField
  exact ⟨if_neg (hsize "Status of volume" (by decide)), if_neg (hsize "Volume wwid" (by decide)),
    if_neg (hsize "RAID level" (by decide)),
    (if_neg (hsize "Physical hard disks" (by decide))).trans (if_neg (by decide))⟩

/-- A member is named by a field about its place. -/
theorem memberField_key (i : Nat) (d : ShownDisk) :
    isPlace (ShownVolume.memberField i d) = true ∧ IsKey (ShownVolume.memberField i d).1 := by
  have hchars : ("PHY[" ++ toString i ++ "] Enclosure#/Slot#").toList =
      "PHY[".toList ++ (toString i).toList ++ "] Enclosure#/Slot#".toList := by
    rw [String.toList_append, String.toList_append]
  have hnotMem : ∀ c : Char, c.isDigit = false → c ∉ "PHY[".toList →
      c ∉ "] Enclosure#/Slot#".toList →
      c ∉ ("PHY[" ++ toString i ++ "] Enclosure#/Slot#").toList := by
    intro c hc hfront hback hmem
    rw [hchars, List.mem_append, List.mem_append] at hmem
    rcases hmem with (hmem | hmem) | hmem
    · exact hfront hmem
    · exact Bool.false_ne_true (hc.symm.trans (Numeral.isDigit_of_mem_toString hmem))
    · exact hback hmem
  have hfront : Chars.Trimmed "PHY[".toList := Chars.trimmed_of_trim_eq (by decide)
  have hback : Chars.Trimmed "] Enclosure#/Slot#".toList := Chars.trimmed_of_trim_eq (by decide)
  have htrimmed := hfront.append hback (by decide) (by decide) (toString i).toList
  constructor
  · rw [isPlace, Bool.and_eq_true, Text.beginsWith_iff, Text.endsWith_iff, ShownVolume.memberField,
      hchars]
    exact ⟨⟨_, (List.append_assoc ..).symm⟩, List.suffix_append _ _⟩
  · refine ⟨isLine_iff.mpr ⟨?_, hnotMem '\n' rfl (by decide) (by decide)⟩, ?_,
      hnotMem ':' rfl (by decide) (by decide)⟩
    · rw [ShownVolume.memberField, hchars]
      exact htrimmed
    · rw [ShownVolume.memberField, Ne, ← String.toList_eq_nil_iff, hchars]
      exact List.append_ne_nil_of_right_ne_nil _ (by decide)

/-- A key in the block of a volume is no header. -/
theorem isKey_of_mem_volumeKeys {v : ShownVolume} (h : f ∈ v.fields) :
    IsKey f.1 ∧ ∃ front, Text.beginsWith f.1 front = true ∧
      Text.beginsWith "IR volume" front = false ∧ Text.beginsWith front "IR volume" = false := by
  have hall : ∀ key ∈ ["Volume ID", "Status of volume", "Volume wwid", "RAID level",
      "Size (in MB)", "Physical hard disks"], IsKey key ∧
        Text.beginsWith "IR volume" key = false ∧ Text.beginsWith key "IR volume" = false := by
    decide
  rcases List.mem_append.mp h with h | h
  · obtain ⟨hkey, hstart⟩ := hall f.1 (List.mem_map_of_mem (f := (·.1)) h)
    exact ⟨hkey, f.1, Text.beginsWith_iff.mpr (List.prefix_refl _), hstart⟩
  · obtain ⟨i, hi, rfl⟩ := List.mem_mapIdx.mp h
    obtain ⟨hplace, hkey⟩ := memberField_key i v.members[i]
    rw [isPlace, Bool.and_eq_true] at hplace
    exact ⟨hkey, "PHY[", hplace.1, by decide, by decide⟩

theorem toList_header (i : Nat) :
    (ShownVolume.header i).toList = "IR volume".toList ++ [' '] ++ (toString (i + 1)).toList := by
  have hfront : "IR volume ".toList = "IR volume".toList ++ [' '] := by decide
  rw [ShownVolume.header, String.toList_append, hfront]

/-- The line of a header is one, and is read as it stands. -/
theorem header_isVolumeHeader (i : Nat) :
    isVolumeHeader (ShownVolume.header i) = true ∧ IsLine (ShownVolume.header i) ∧
      Counts (ShownVolume.header i) := by
  have hne : (toString (i + 1)).toList ≠ [] := by
    rw [Numeral.toList_toString]
    exact Nat.toDigits_ne_nil
  have hnumber := isLine_toString (i + 1)
  refine ⟨Text.beginsWith_iff.mpr ?_, isLine_iff.mpr ⟨?_, ?_⟩, counts_of_endsWith ?_ ?_⟩
  · rw [toList_header, List.append_assoc]
    exact List.prefix_append _ _
  · rw [toList_header]
    have hfront : Chars.Trimmed "IR volume".toList := Chars.trimmed_of_trim_eq (by decide)
    exact hfront.append hnumber.trimmed (by decide) hne [' ']
  · rw [toList_header, List.mem_append, not_or]
    exact ⟨by decide, hnumber.2⟩
  · rw [isRule, toList_header, List.all_eq_false]
    exact ⟨'I', List.mem_append_left _ (by decide), by decide⟩
  · rw [← Bool.not_eq_true, Text.endsWith_iff, toList_header]
    rintro ⟨front, hfront⟩
    -- the last character is a digit
    have hlast := congrArg List.getLast? hfront
    rw [List.getLast?_append_of_ne_nil _ hne, List.getLast?_append_of_ne_nil _ (by decide)] at hlast
    have hdigit := Numeral.isDigit_of_mem_toString (List.mem_of_getLast? hlast.symm)
    exact absurd hdigit (by decide)

/-- The block of the volume with an index. -/
def ShownVolume.block (i : Nat) (v : ShownVolume) : String × List String :=
  (header i, v.fields.map shownField)

/-- The volume with the places of its members. -/
def ShownVolume.named (v : ShownVolume) : NamedVolume where
  record := { v.record with members := [] }
  wwid := v.wwid
  memberPlaces := v.members.map ShownDisk.place

section
variable {v : ShownVolume} (h : v.Valid) (hmembers : ∀ d ∈ v.members, d.Valid)
include h hmembers

theorem ShownVolume.Valid.isField : ∀ f ∈ v.fields, IsField f := by
  intro f hf
  refine ⟨(isKey_of_mem_volumeKeys hf).1, ?_⟩
  have hwwid : IsLine v.wwid := isLine_of_notBlank fun c hc =>
    Identifier.isBlank_of_isHexDigit (List.all_eq_true.mp h.wwid.2 c hc)
  have hlevel : IsLine v.level.1 := by
    have hall : ∀ level ∈ levels, IsLine level.1 := by decide
    exact hall _ h.level
  rcases List.mem_append.mp hf with hf | hf
  · have hvalues : ∀ value ∈ [toString v.id, v.status, v.wwid, v.level.1, toString v.megabytes, ""],
        IsLine value := by
      simp only [List.forall_mem_cons, List.not_mem_nil, false_implies, implies_true, and_true]
      exact ⟨isLine_toString v.id.toNat, h.status, hwwid, hlevel, isLine_toString v.megabytes,
        by decide⟩
    exact hvalues f.2 (List.mem_map_of_mem (f := (·.2)) hf)
  · obtain ⟨i, hi, rfl⟩ := List.mem_mapIdx.mp hf
    exact (hmembers _ (List.getElem_mem hi)).isLine_place

theorem ShownVolume.Valid.noHeader (i : Nat) :
    ∀ line ∈ (v.block i).2, isVolumeHeader line = false := by
  intro line hline
  obtain ⟨f, hf, rfl⟩ := List.mem_map.mp hline
  obtain ⟨-, front, hfront, hstart, hback⟩ := isKey_of_mem_volumeKeys hf
  exact (h.isField hmembers f hf).not_beginsWith hfront hstart hback

/-- The block of a volume is read as that volume, its key apart. -/
theorem ShownVolume.Valid.unkeyed_eq (i : Nat) :
    unkeyed (v.block i) = { v.named with record.key := .sasAddress "" } := by
  have hfit : v.megabytes < Nat.pow 2 53 := by
    have hsize := h.megabytes
    simp only [UInt64.size] at hsize
    simp only [Nat.pow_eq]
    omega
  have hfits : Binary64.Fits (v.megabytes * (1024 * 1024)) :=
    Binary64.fits_mul_two_pow (b := 20) hfit (by decide)
  have hsize := Size.inUnits_toString hfit hfits h.megabytes
  have hlevel : RaidLevel.ofTable levels v.level.1 = v.level.2 := by
    have hall : ∀ level ∈ levels, RaidLevel.ofTable levels level.1 = level.2 := by decide
    exact hall _ h.level
  have hplaces : ∀ f ∈ v.members.mapIdx ShownVolume.memberField, isPlace f = true := by
    intro f hf
    obtain ⟨i, hi, rfl⟩ := List.mem_mapIdx.mp hf
    exact (memberField_key i _).1
  have hmap : (v.members.mapIdx ShownVolume.memberField).map (·.2) =
      v.members.map ShownDisk.place :=
    List.ext_getElem (by simp) (by simp [ShownVolume.memberField])
  rw [unkeyed, ShownVolume.block, fields_shownField (h.isField hmembers), ShownVolume.fields,
    List.foldl_append, foldl_places hplaces, hmap]
  simp only [List.foldl_cons, List.foldl_nil, setVolumeField_id, setVolumeField_size,
    setVolumeField_other, hsize, hlevel]
  rfl

/-- A shown volume has an identifier, which becomes its key. -/
theorem ShownVolume.Valid.blockVolume?_eq (i : Nat) :
    blockVolume? (v.block i) = some v.named := by
  have hdashed : Identifier.IsDashed v.wwid.toList :=
    Identifier.isDashed_of_hexDigits (mt String.toList_eq_nil_iff.mp h.wwid.1) h.wwid.2
  have hdigits : Identifier.smallDigits v.wwid.toList = v.wwid.toList.map Char.toLower := by
    rw [Identifier.smallDigits, List.filter_eq_self.mpr]
    exact fun c hc => bne_iff_ne.mpr
      (Identifier.ne_dash_of_isHexDigit (List.all_eq_true.mp h.wwid.2 c hc))
  have hwwid : wwid? (v.block i) = some v.address := by
    have hcanonical := Identifier.canonical?_of_dashed hdashed
    rw [hdigits] at hcanonical
    rw [← canonical?_unkeyed, h.unkeyed_eq hmembers i, ShownVolume.address, Text.lower]
    exact hcanonical.trans (congrArg some (String.toList_injective (by simp)))
  rw [blockVolume?, hwwid, h.unkeyed_eq hmembers i]
  rfl

end

end StorageInventory.SasIr
