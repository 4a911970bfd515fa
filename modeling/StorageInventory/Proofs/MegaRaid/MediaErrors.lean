import StorageInventory.Proofs.Health.Verdicts
import StorageInventory.Proofs.Listing.Fields
import StorageInventory.Proofs.MegaRaid.Blocks
import StorageInventory.Proofs.Number.Digits

/-!
# Media errors of MegaRAID drives

The number of media errors of a drive is on the last line of its block that tells it, and no other
line depends on it (`listedDrives_counted`). Main statement: a drive with more errors than the
threshold is unhealthy, and with more errors still it stays so, as long as the number is a 32-bit
word; a greater number is read as zero (`listedDrives_mediaErrors`).
-/

namespace StorageInventory.MegaRaid

/-- The number of media errors that is read where a count stands; no count is read that is not a
32-bit word. -/
def errorsRead (count : Nat) : UInt32 := if count < UInt32.size then .ofNat count else 0

/-- A drive with a number of media errors. -/
def withErrors (errors : UInt32) (d : PhysicalDrive) : PhysicalDrive :=
  { d with mediaErrors := errors }

theorem word32?_errorsRead {text : String} (h : Numeral.digits? 10 text.toList = some count) :
    (Numeral.word32? text).getD 0 = errorsRead count := by
  rw [Numeral.word32?_of_digits? h, errorsRead]
  split <;> rfl

theorem toNat_errorsRead (h : count < UInt32.size) : (errorsRead count).toNat = count := by
  rw [errorsRead, if_pos h, UInt32.toNat_ofNat_of_lt' h]

/-! ## Blocks -/

theorem setDriveField_withErrors (h : field.1 ≠ "Media Error Count") (errors : UInt32)
    (d : PhysicalDrive) :
    setDriveField (withErrors errors d) field =
      (setDriveField d field).map (withErrors errors) := by
  -- The named cases look at the drive or at the text before they set a field.
  unfold setDriveField
  split
  case h_1 | h_2 => cases hplace : position? field.2 <;> simp only [hplace] <;> rfl
  case h_11 => cases hspeed : d.linkSpeed.isEmpty <;> simp [withErrors, Except.map, hspeed]
  case h_12 =>
    cases hkind : Text.holds (Text.lower field.2) "solid state" <;>
      simp [withErrors, Except.map, hkind]
  case h_15 hkey => exact absurd hkey h
  all_goals rfl

theorem setDriveField_errorRecords {d d' : PhysicalDrive} (h : setDriveField d field = .ok d') :
    d'.errorRecords = d.errorRecords := by
  grind [setDriveField]

section
variable {header line text : String} {front back : List String}
  (hheader : lineKey? header = some "Enclosure Device ID")
  (hbody : ∀ l ∈ front ++ back, lineKey? l ≠ some "Enclosure Device ID")
include hheader hbody

/-- The last count of a block sets the number of media errors of its drive, and nothing else. -/
theorem listedDrives_counted (hlast : ∀ l ∈ back, lineKey? l ≠ some "Media Error Count")
    (hline : Text.keyValue? line ":" = some ("Media Error Count", text)) :
    listedDrives (header :: (front ++ line :: back)) =
      (listedDrives (header :: (front ++ back))).map
        (List.map (withErrors ((Numeral.word32? text).getD 0))) := by
  obtain ⟨⟨_, value⟩, hfield, rfl⟩ := Option.map_eq_some_iff.mp hheader
  have hkey : lineKey? line ≠ some "Enclosure Device ID" := by
    simp [lineKey?, hline]
  have hbody' : ∀ l ∈ front ++ line :: back, lineKey? l ≠ some "Enclosure Device ID" := by
    rw [List.forall_mem_append] at hbody ⊢
    exact ⟨hbody.1, List.forall_mem_cons.mpr ⟨hkey, hbody.2⟩⟩
  have hkeys : ∀ f ∈ Listing.fields ":" back, f.1 ≠ "Media Error Count" :=
    fun f hf => beq_eq_false_iff_ne.mp (fields_key_ne hlast f hf)
  have hback (d : PhysicalDrive) := Listing.foldlM_hom (withErrors ((Numeral.word32? text).getD 0))
    (fun v f hf => setDriveField_withErrors (hkeys f hf) _ v) d
  rw [listedDrives_block hfield hbody', listedDrives_block hfield hbody, fields_append,
    fields_append, fields_cons hline, List.foldlM_append, List.foldlM_append]
  cases (Listing.fields ":" front).foldlM setDriveField
      { family := .megaRaid, enclosure := value } with
  | error failure => rfl
  | ok d =>
    change ((Listing.fields ":" back).foldlM setDriveField (withErrors _ d)).map ([·]) =
      (((Listing.fields ":" back).foldlM setDriveField d).map ([·])).map _
    rw [hback]
    cases (Listing.fields ":" back).foldlM setDriveField d <;> rfl

theorem errorRecords_of_listedDrives (h : listedDrives (header :: (front ++ back)) = .ok [d]) :
    d.errorRecords = [] := by
  obtain ⟨⟨_, value⟩, hfield, rfl⟩ := Option.map_eq_some_iff.mp hheader
  rw [listedDrives_block hfield hbody] at h
  obtain ⟨found, hfound, hd⟩ := Attempt.map_eq_ok_iff.mp h
  obtain rfl := List.singleton_inj.mp hd
  exact Listing.foldlM_keeps (·.errorRecords) (fun _ _ _ _ hset => setDriveField_errorRecords hset)
    hfound

end

/-! ## Verdicts -/

theorem errorCount_withErrors (hd : d.errorRecords = []) (h : count < UInt32.size) :
    (withErrors (errorsRead count) d).errorCount = count := by
  rw [PhysicalDrive.errorCount, withErrors, toNat_errorsRead h, hd, List.length_nil, Nat.zero_mod,
    Nat.add_zero, Nat.min_eq_left (Nat.le_sub_one_of_lt h)]

theorem cause_of_threshold_lt (hd : d.errorRecords = []) (h : count < UInt32.size)
    (hcount : errorThreshold < count) :
    s!"{d.label}: {count} errors exceed threshold {errorThreshold}" ∈
      (withErrors (errorsRead count) d).verdict.causes := by
  rw [PhysicalDrive.verdict, errorCount_withErrors hd h, if_pos hcount]
  exact List.mem_append_left _ List.mem_cons_self

theorem unhealthy_iff (hd : d.errorRecords = []) (h : count < UInt32.size) :
    (withErrors (errorsRead count) d).verdict.status = .unhealthy ↔
      errorThreshold < count ∨ d.family.goodDriveStatus d.status = false := by
  have hrecords : (withErrors (errorsRead count) d).errorRecords.length < UInt32.size := by
    rw [withErrors, hd]
    decide
  rw [Verdict.status_eq_unhealthy, ← Bool.not_eq_true, PhysicalDrive.verdict_isHealthy hrecords,
    withErrors, toNat_errorsRead h, hd, not_and_or, Nat.not_le, Bool.not_eq_true]
  rfl

/-- What the last count of a block makes of its drive, which is `d` without that line. A count above
the threshold makes the drive unhealthy and is told as a cause, and a greater count makes no drive
healthy, among those that are 32-bit words; any other is the count zero. -/
theorem listedDrives_mediaErrors {A B : List String} (hA : listedDrives A = .ok as)
    (hB : listedDrives B = .ok bs)
    (hnext : ∀ b ∈ B.head?, lineKey? b = some "Enclosure Device ID")
    (hheader : lineKey? header = some "Enclosure Device ID")
    (hbody : ∀ l ∈ front ++ back, lineKey? l ≠ some "Enclosure Device ID")
    (hlast : ∀ l ∈ back, lineKey? l ≠ some "Media Error Count")
    (hblock : listedDrives (header :: (front ++ back)) = .ok [d]) :
    (∀ line text count, Text.keyValue? line ":" = some ("Media Error Count", text) →
      Numeral.digits? 10 text.toList = some count →
      listedDrives (A ++ header :: (front ++ line :: back) ++ B) =
        .ok (as ++ withErrors (errorsRead count) d :: bs)) ∧
    (∀ count < UInt32.size, errorThreshold < count →
      (withErrors (errorsRead count) d).verdict.status = .unhealthy ∧
      s!"{d.label}: {count} errors exceed threshold {errorThreshold}" ∈
        (withErrors (errorsRead count) d).verdict.causes) ∧
    (∀ count < UInt32.size, ∀ less ≤ count,
      (withErrors (errorsRead less) d).verdict.status = .unhealthy →
      (withErrors (errorsRead count) d).verdict.status = .unhealthy) ∧
    ∀ count ≥ UInt32.size, errorsRead count = 0 := by
  have hd := errorRecords_of_listedDrives hheader hbody hblock
  refine ⟨fun line text count hline hcount => ?_, fun count h hcount => ?_,
    fun count h less hle hless => ?_, fun count h => if_neg (Nat.not_lt.mpr h)⟩
  · have hfirst : ∀ b ∈ (header :: (front ++ line :: back)).head?,
        lineKey? b = some "Enclosure Device ID" := by
      rintro _ ⟨⟩
      exact hheader
    rw [listedDrives_append _ hnext, listedDrives_append A hfirst, hA, hB,
      listedDrives_counted hheader hbody hlast hline, hblock, word32?_errorsRead hcount]
    simp [Except.bind, Except.map]
  · exact ⟨(unhealthy_iff hd h).mpr (.inl hcount), cause_of_threshold_lt hd h hcount⟩
  · rw [unhealthy_iff hd (Nat.lt_of_le_of_lt hle h)] at hless
    rw [unhealthy_iff hd h]
    exact hless.imp_left fun hlt => Nat.lt_of_lt_of_le hlt hle

/-- The last of two counts makes the drive unhealthy. -/
theorem listedDrives_mediaErrors_last : ∃ d, d.verdict.status = .unhealthy ∧
    listedDrives ["Adapter #0", "Enclosure Device ID: 32", "Slot Number: 4", "Media Error Count: 2",
      "Media Error Count: 6", "Firmware state: JBOD", "Enclosure Device ID: 32", "Slot Number: 5"] =
    .ok [d, { family := .megaRaid, enclosure := "32", slot := "5" }] := by
  have hfront : listedDrives ["Adapter #0"] = .ok [] := by decide +kernel
  have hback : listedDrives ["Enclosure Device ID: 32", "Slot Number: 5"] =
      .ok [{ family := .megaRaid, enclosure := "32", slot := "5" }] := by decide +kernel
  have hblock : listedDrives ("Enclosure Device ID: 32" ::
      (["Slot Number: 4", "Media Error Count: 2"] ++ ["Firmware state: JBOD"])) =
      .ok [{ family := .megaRaid, enclosure := "32", slot := "4", status := "JBOD",
             mediaErrors := 2 }] := by decide +kernel
  obtain ⟨hlisted, hcauses, -, -⟩ := listedDrives_mediaErrors hfront hback (by decide +kernel)
    (by decide +kernel) (by decide +kernel) (by decide +kernel) hblock
  exact ⟨_, (hcauses 6 (by decide) (by decide)).1,
    hlisted "Media Error Count: 6" "6" 6 (by decide +kernel) (by decide)⟩

/-- A drive with more errors than a 32-bit word counts is healthy. -/
theorem mediaErrors_hidden :
    (listedDrives ["Enclosure Device ID: 32", "Media Error Count: 6"]).map
        (List.map (·.verdict.status)) = .ok [.unhealthy] ∧
      (listedDrives ["Enclosure Device ID: 32", "Media Error Count: 4294967296"]).map
        (List.map (·.verdict.status)) = .ok [.healthy] := by
  decide +kernel

end StorageInventory.MegaRaid
