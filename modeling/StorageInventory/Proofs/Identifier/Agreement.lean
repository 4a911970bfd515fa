import StorageInventory.MegaRaid
import StorageInventory.Proofs.Identifier.Spellings
import StorageInventory.Proofs.Kernel.ClassEntries
import StorageInventory.Proofs.Listing.Fields
import StorageInventory.Proofs.Matching.Visits
import StorageInventory.Proofs.SmartArray.Drives
import StorageInventory.SasIr

/-!
# Sources that agree on an identifier

The kernel shows the identifier of a device in files, and each tool tells that of a drive in a field
of the drive's block. Main statement (`spellings_meet`): two spellings have the same canonical
spelling exactly when their digits agree, so that a device is matched with a drive exactly when the
kernel shows the digits that the tool tells.
-/

namespace StorageInventory

open Identifier (Spells)
open Matching (Carries)

/-! ## The kernel -/

namespace Kernel
variable {t : FileTree} {b : BlockPlace} {device : BlockDevice}

/-- A file of the device spells an identifier with the given digits: its SAS address, or its wide
name if that is of the right kind. -/
inductive ShowsDigits (t : FileTree) (b : BlockPlace) : List Char → Prop
  | sasAddress {text : String} : t.read (Path.join b.devicePath "sas_address") = .ok text →
    Spells text ds → ShowsDigits t b ds
  | wideName {text name : String} : t.read (Path.join b.devicePath "wwid") = .ok text →
    Text.trim text = "naa." ++ name → Spells name ds → ShowsDigits t b ds

/-- A device has the SAS address that its attribute spells. -/
theorem sasAddress_eq_some_iff {log : Logger} {id : String}
    (h : (blockDevice log t scsiOnly b).outcome = .ok device) :
    device.sasAddress = some id ↔
      ∃ text, t.read (Path.join b.devicePath "sas_address") = .ok text ∧
        Identifier.canonical? text = some id := by
  rw [(of_blockDevice h).2.2.1, Option.bind_eq_some_iff]
  constructor
  · rintro ⟨value, hvalue, hid⟩
    obtain ⟨text, hread, rfl, -⟩ := attribute?_eq_some_iff.mp hvalue
    exact ⟨text, hread, Identifier.canonical?_trim text ▸ hid⟩
  · rintro ⟨text, hread, hid⟩
    rw [← Identifier.canonical?_trim] at hid
    refine ⟨_, attribute?_eq_some_iff.mpr ⟨text, hread, rfl, fun hblank => ?_⟩, hid⟩
    rw [hblank] at hid
    cases hid

/-- A device has the world wide name that its identifier spells behind `naa.`, and none of another
kind. -/
theorem wwn_eq_some_iff {log : Logger} {id : String}
    (h : (blockDevice log t scsiOnly b).outcome = .ok device) :
    device.wwn = some id ↔
      ∃ text name, t.read (Path.join b.devicePath "wwid") = .ok text ∧
        Text.trim text = "naa." ++ name ∧ Identifier.canonical? name = some id := by
  rw [(of_blockDevice h).2.2.2, Option.bind_eq_some_iff]
  simp only [wideName?, Option.bind_eq_some_iff, Text.after?_eq_some_iff]
  constructor
  · rintro ⟨value, hvalue, name, hname, hid⟩
    obtain ⟨text, hread, rfl, -⟩ := attribute?_eq_some_iff.mp hvalue
    exact ⟨text, name, hread, (Text.trim_trim text).symm.trans hname, hid⟩
  · rintro ⟨text, name, hread, hname, hid⟩
    refine ⟨_, attribute?_eq_some_iff.mpr ⟨text, hread, rfl, ?_⟩, name, ?_, hid⟩
    · rw [hname]
      exact fun hempty => absurd (String.append_eq_empty_iff.mp hempty).1 (by decide)
    · rw [Text.trim_trim, hname]

/-- What a device carries is canonical, so the digits that it shows decide. -/
theorem carries_iff {log : Logger} {id : String}
    (h : (blockDevice log t scsiOnly b).outcome = .ok device) :
    Carries device id ↔
      ∃ ds, ShowsDigits t b ds ∧ id = String.ofList ('0' :: 'x' :: ds.map Char.toLower) := by
  rw [Carries, sasAddress_eq_some_iff h, wwn_eq_some_iff h]
  simp only [Identifier.canonical?_eq_some_iff]
  constructor
  · rintro (⟨text, hread, ds, hs, rfl⟩ | ⟨text, name, hread, htrim, ds, hs, rfl⟩)
    · exact ⟨ds, .sasAddress hread hs, rfl⟩
    · exact ⟨ds, .wideName hread htrim hs, rfl⟩
  · rintro ⟨ds, hshows, rfl⟩
    cases hshows with
    | sasAddress hread hs => exact .inl ⟨_, hread, ds, hs, rfl⟩
    | wideName hread htrim hs => exact .inr ⟨_, _, hread, htrim, ds, hs, rfl⟩

end Kernel

/-! ## The tools -/

namespace MegaRaid

theorem setDriveField_wwn {d d' : PhysicalDrive} (h : setDriveField d field = .ok d')
    (hkey : field.1 ≠ "WWN") : d'.ids.wwn = d.ids.wwn := by
  grind [setDriveField]

/-- The last field of a block that gives a name counts, readable or not. -/
theorem drive_wwn (h : drive (header, fs) = .ok d) (hlast : Listing.LastField fs "WWN" text) :
    d.ids.wwn = Identifier.canonical? text := by
  obtain ⟨front, back, rfl, hback⟩ := hlast
  unfold drive at h
  rw [List.foldlM_append] at h
  obtain ⟨before, -, h⟩ := Attempt.bind_eq_ok_iff.mp h
  rw [List.foldlM_cons] at h
  obtain ⟨named, hset, h⟩ := Attempt.bind_eq_ok_iff.mp h
  obtain rfl : { before with ids.wwn := Identifier.canonical? text } = named := Except.ok.inj hset
  exact Listing.foldlM_keeps (fun d : PhysicalDrive => d.ids.wwn)
    (fun _ _ field hfield hd => setDriveField_wwn hd (hback field hfield)) h

end MegaRaid

namespace SasIr

theorem setDeviceField_sasAddress (d : Device) (hkey : field.1 ≠ "SAS Address") :
    (setDeviceField d field).drive.ids.sasAddress = d.drive.ids.sasAddress := by
  grind [setDeviceField]

theorem device_sasAddress
    (h : Listing.LastField (Listing.fields ":" body) "SAS Address" text) (header : String) :
    (device (header, body)).drive.ids.sasAddress = Identifier.canonical? text :=
  Listing.foldl_lastField (fun d : Device => d.drive.ids.sasAddress) h (fun _ => rfl)
    (fun d _ hkey => setDeviceField_sasAddress d hkey) {}

end SasIr

namespace SmartArray

/-- The keys of identifiers. -/
def identifierKeys : List String := ["WWID", "SAS Address"]

theorem setDriveField_sasAddress (seen : SeenDrive)
    (h : field.1 ∉ identifierKeys ∨ seen.1.ids.sasAddress.isNone = false) :
    (setDriveField seen field).1.ids.sasAddress = seen.1.ids.sasAddress := by
  grind [setDriveField, identifierKeys]

theorem setDriveField_identifier {seen : SeenDrive} (hkey : key ∈ identifierKeys)
    (h : seen.1.ids.sasAddress = none) :
    (setDriveField seen (key, text)).1.ids.sasAddress = Identifier.canonical? text := by
  grind [setDriveField, identifierKeys]

theorem ofHeader_sasAddress (header : String) : (ofHeader header).ids.sasAddress = none := by
  unfold ofHeader
  split
  · split <;> rfl
  · rfl

/-- The first field that spells an identifier counts; the fields behind it are passed over. -/
theorem readDrive_sasAddress {address : String}
    (h : Listing.fields ": " body = front ++ (key, text) :: back) (hkey : key ∈ identifierKeys)
    (hfront : ∀ field ∈ front, field.1 ∉ identifierKeys)
    (hid : Identifier.canonical? text = some address) :
    (readDrive (header, body)).1.ids.sasAddress = some address := by
  have hnone := Listing.foldl_keeps (fun seen : SeenDrive => seen.1.ids.sasAddress)
    (fun seen field hfield => setDriveField_sasAddress seen (.inl (hfront field hfield)))
    (ofHeader header, false)
  rw [ofHeader_sasAddress] at hnone
  rw [readDrive, h, List.foldl_append, List.foldl_cons]
  -- once it is told, the identifier stays
  refine List.foldlRecOn (motive := fun seen : SeenDrive => seen.1.ids.sasAddress = some address)
    back _ ?_ ?_
  · rw [setDriveField_identifier hkey hnone, hid]
  · intro seen hseen field _
    rw [setDriveField_sasAddress seen (.inr (by rw [hseen]; rfl)), hseen]

end SmartArray

/-- The block of a drive in the listing of a family's tool, read as the drive, tells its identifier:
in the last field of that key, or for Smart Array in the first of two keys. -/
inductive TellsIdentifier : RaidFamily → String → PhysicalDrive → Prop
  | megaRaid : MegaRaid.drive (header, fs) = .ok d → Listing.LastField fs "WWN" text →
    TellsIdentifier .megaRaid text d
  | sasIr : Listing.LastField (Listing.fields ":" body) "SAS Address" text →
    TellsIdentifier .sasIr text (SasIr.device (header, body)).drive
  | smartArray : Listing.fields ": " body = front ++ (key, text) :: back →
    key ∈ SmartArray.identifierKeys → (∀ field ∈ front, field.1 ∉ SmartArray.identifierKeys) →
    TellsIdentifier .smartArray text (SmartArray.readDrive (header, body)).1

/-- Each family matches its drives by the identifier that its listing tells. -/
theorem TellsIdentifier.driveId?_eq {id : String} (h : TellsIdentifier family text d)
    (hid : Identifier.canonical? text = some id) : Matching.driveId? family d = some id := by
  cases h with
  | megaRaid hread hlast => exact (MegaRaid.drive_wwn hread hlast).trans hid
  | sasIr hlast => exact (SasIr.device_sasAddress hlast _).trans hid
  | smartArray hfields hkey hfront => exact SmartArray.readDrive_sasAddress hfields hkey hfront hid

/-! ## Agreement -/

/-- A device is matched with a drive when the kernel shows the digits that the tool tells. -/
theorem isDrive_iff_digits {log : Logger} {t : FileTree} {b : Kernel.BlockPlace}
    {device : BlockDevice} (hshown : (Kernel.blockDevice log t scsiOnly b).outcome = .ok device)
    (htold : TellsIdentifier family text d) (hs : Spells text es) :
    Matching.isDrive family device d = true ↔
      ∃ ds, Kernel.ShowsDigits t b ds ∧ ds.map Char.toLower = es.map Char.toLower := by
  rw [Matching.isDrive, htold.driveId?_eq hs.canonical?_eq, Option.any_some,
    List.contains_iff_mem, Matching.mem_deviceIds, Kernel.carries_iff hshown]
  refine exists_congr fun ds => and_congr_right fun _ => ?_
  rw [Identifier.canonicalText_inj]
  exact eq_comm

/-- All spellings of one identifier meet, and those of different identifiers never do. -/
structure SpellingsMeet : Prop where
  spelled : ∀ s ds, Spells s ds →
    Identifier.canonical? s = some (String.ofList ('0' :: 'x' :: ds.map Char.toLower))
  meet : ∀ s s' ds ds', Spells s ds → Spells s' ds' →
    (Identifier.canonical? s = Identifier.canonical? s' ↔
      ds.map Char.toLower = ds'.map Char.toLower)
  idempotent : ∀ s id, Identifier.canonical? s = some id → Identifier.canonical? id = some id
  /-- A text has a canonical spelling unless nothing but dashes is left behind its mark, or a
  character that is no digit. -/
  parts : ∀ s, ∃ mark body, Identifier.Parts s mark body
  refused : ∀ s mark body, Identifier.Parts s mark body →
    (Identifier.canonical? s = none ↔
      body.filter (· != '-') = [] ∨
        ∃ c ∈ body.filter (· != '-'), Identifier.isHexDigit c = false)
  shows : ∀ log t scsiOnly b device family text d es,
    (Kernel.blockDevice log t scsiOnly b).outcome = .ok device → TellsIdentifier family text d →
    Spells text es →
    (Matching.isDrive family device d = true ↔
      ∃ ds, Kernel.ShowsDigits t b ds ∧ ds.map Char.toLower = es.map Char.toLower)

/-- Spellings are compared by their digits, on the side of the kernel as on that of a tool. -/
theorem spellings_meet : SpellingsMeet where
  spelled _ _ h := h.canonical?_eq
  meet := by
    intro s s' ds ds' hs hs'
    rw [hs.canonical?_eq, hs'.canonical?_eq, Option.some.injEq, Identifier.canonicalText_inj]
  idempotent _ _ h := Identifier.canonical?_canonical h
  parts := Identifier.exists_parts
  refused := by
    intro s mark body hparts
    have hnone : Identifier.canonical? s = none ↔ ¬Identifier.IsDashed body := by
      rw [hparts.canonical?_eq]
      split <;> simp [*]
    rw [hnone, Identifier.isDashed_iff, not_and_or, not_not]
    simp only [not_forall, exists_prop, Bool.not_eq_true]
  shows _ _ _ _ _ _ _ _ _ := isDrive_iff_digits

/-- A device with its files. -/
def shownDevice : FileTree := .ofEntries [
  (["0:0:3:0"], .directory),
  (["0:0:3:0", "sas_address"], .file (some "0x5000c500a1b2c3d4\n")),
  (["0:0:3:0", "wwid"], .file (some "naa.5000C500A1B2C3D5\n"))]

/-- The same digits in two spellings, and marks with no digit behind them; a device shows the
address that a tool spells with dashes. -/
theorem spellings_meet_dashed :
    Identifier.canonical? " NAA.0x5000C50-0-a1b2-C3d4- " =
        Identifier.canonical? "5000c500a1b2c3d4" ∧
      Identifier.canonical? "naa.0x--" = none ∧
      ∃ device,
        (Kernel.blockDevice .fallback shownDevice true ⟨["0:0:3:0"], "sdc"⟩).outcome = .ok device ∧
        Matching.isDrive .sasIr device (SasIr.device
          ("", ["Slot # : 3", "SAS Address : 5000c50-0-a1b2-c3d4"])).drive = true := by
  have h := spellings_meet
  have hmarked : Spells " NAA.0x5000C50-0-a1b2-C3d4- " "5000C500a1b2C3d4".toList :=
    .intro [' '] "NAA.0x".toList "5000C50-0-a1b2-C3d4-".toList [' '] (by decide +kernel)
      (List.forall_mem_singleton.mpr rfl) (by decide) (by decide)
      (List.forall_mem_singleton.mpr rfl)
  have hbare : Spells "5000c500a1b2c3d4" "5000c500a1b2c3d4".toList :=
    Identifier.IsDashed.spells (by decide)
  have hdashed : Spells "5000c50-0-a1b2-c3d4" "5000c500a1b2c3d4".toList :=
    Identifier.IsDashed.spells (by decide)
  have hfile : Spells "0x5000c500a1b2c3d4\n" "5000c500a1b2c3d4".toList :=
    .intro [] "0x".toList "5000c500a1b2c3d4".toList ['\n'] (by decide +kernel) (by simp)
      (by decide) (by decide) (List.forall_mem_singleton.mpr rfl)
  refine ⟨(h.meet _ _ _ _ hmarked hbare).mpr (by decide), ?_, ?_⟩
  · exact (h.refused _ "naa.0x".toList "--".toList
      ⟨by decide +kernel, by decide, by decide⟩).mpr (.inl (by decide))
  · refine ⟨_, rfl, (h.shows .fallback shownDevice true ⟨["0:0:3:0"], "sdc"⟩ _ _ _ _ _ rfl
      (.sasIr ⟨[("Slot #", "3")], [], by decide +kernel, by simp⟩)
      hdashed).mpr ⟨_, .sasAddress (by decide +kernel) hfile, rfl⟩⟩

end StorageInventory
