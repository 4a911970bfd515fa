import StorageInventory.Proofs.Health.Verdicts
import StorageInventory.Proofs.Kernel.ListingOrder
import StorageInventory.Proofs.Number.Digits
import StorageInventory.Proofs.Scan.KernelView
import StorageInventory.Proofs.Text.Lines
import StorageInventory.Proofs.Text.Search

/-!
# Counted bus errors

The files in which the bus counts errors for a device have a line for each kind of error, with its
name and its count. Main statement: the errors that are recorded for a storage controller are those
of the two uncorrectable files that were counted, in the order of the files, and the verdict on a
RAID controller is made of these records and of nothing else that is known about it
(`Kernel.errorCounts_decide`).
-/

namespace StorageInventory.Kernel
open Chars (isBlank trim contentLines)

/-- A kind of error and how often it was counted. -/
structure ErrorCount where
  name : String
  count : UInt64
  name_ne : name ≠ ""
  name_notBlank : ∀ c ∈ name.toList, isBlank c = false
  deriving DecidableEq, Repr

namespace ErrorCount

/-- Whether there is a record of it: it was counted, and is no total of others. -/
def isRecorded (e : ErrorCount) : Bool := e.count != 0 && !Text.beginsWith e.name "TOTAL_"

/-- The record of an error that was counted. -/
def record (e : ErrorCount) : String := s!"{e.name}: {e.count}"

/-- The lines on which an error count can stand: the name, blanks, and the digits of the count with
leading zeros or a plus sign in front of them. -/
inductive Spells (e : ErrorCount) : List Char → Prop
  | intro (front gap sign back : List Char) (width : Nat) : (∀ c ∈ front, isBlank c = true) →
    gap ≠ [] → (∀ c ∈ gap, isBlank c = true) → sign = [] ∨ sign = ['+'] →
    (∀ c ∈ back, isBlank c = true) →
    Spells e (front ++ (e.name.toList ++ gap ++
      (sign ++ Numeral.padStart width '0' (Nat.toDigits 10 e.count.toNat))) ++ back)

end ErrorCount

/-- The records of the errors that were counted. -/
def recordsOf (counts : List ErrorCount) : List String :=
  (counts.filter (·.isRecorded)).map (·.record)

/-- A text lists error counts, one on a line; blank lines may stand anywhere, and the last line need
not be ended. -/
inductive Lists : List ErrorCount → List Char → Prop
  | nil : (∀ c ∈ text, isBlank c = true) → Lists [] text
  | last : e.Spells line → '\n' ∉ line → Lists [e] line
  | count : e.Spells line → '\n' ∉ line → Lists counts text →
    Lists (e :: counts) (line ++ '\n' :: text)
  | blank : (∀ c ∈ line, isBlank c = true) → Lists counts text →
    Lists counts (line ++ '\n' :: text)

/-- A file of a device lists error counts; one that cannot be read lists none. -/
inductive FileLists (t : FileTree) (device file : String) : List ErrorCount → Prop
  | text : t.read (Path.join device file) = .ok s → Lists counts s.toList →
    FileLists t device file counts
  | missing : t.read (Path.join device file) = .error unread → FileLists t device file []

variable {e : ErrorCount} {counts fatal nonfatal : List ErrorCount} {line text : List Char}
  {t : FileTree} {root name path device file : String} {address : PciAddress}

/-! ## Lines -/

namespace ErrorCount

theorem number_notBlank {sign : List Char} (hsign : sign = [] ∨ sign = ['+']) (width n : Nat) :
    ∀ c ∈ sign ++ Numeral.padStart width '0' (Nat.toDigits 10 n), isBlank c = false := by
  rw [List.forall_mem_append]
  refine ⟨?_, fun c hc => Chars.isBlank_of_isDigit (Numeral.isDigit_of_mem_padStart hc)⟩
  rcases hsign with rfl | rfl
  · exact List.forall_mem_nil _
  · exact List.forall_mem_singleton.mpr rfl

theorem word64?_number {sign : List Char} (hsign : sign = [] ∨ sign = ['+']) (width : Nat)
    (n : UInt64) :
    Numeral.word64? (String.ofList
      (sign ++ Numeral.padStart width '0' (Nat.toDigits 10 n.toNat))) = some n := by
  have hdigits : Numeral.digits? 10 (Numeral.padStart width '0' (Nat.toDigits 10 n.toNat)) =
      some n.toNat := Numeral.digits?_padStart (by decide) (by decide) width n.toNat
  have hread : Numeral.natural? 10 UInt64.size (String.ofList
      (sign ++ Numeral.padStart width '0' (Nat.toDigits 10 n.toNat))) = some n.toNat := by
    rcases hsign with rfl | rfl
    · exact Numeral.natural?_of_digits? hdigits n.toNat_lt
    · rw [List.singleton_append, Numeral.natural?_plus, hdigits, Option.filter_some,
        if_pos (decide_eq_true n.toNat_lt)]
  rw [Numeral.word64?, hread, Option.map_some, UInt64.ofNat_toNat]

theorem prefix_total_iff (e : ErrorCount) {blanks : List Char}
    (hblanks : ∀ c ∈ blanks, isBlank c = true) :
    "TOTAL_".toList <+: e.name.toList ++ blanks ↔ "TOTAL_".toList <+: e.name.toList := by
  cases blanks with
  | nil => rw [List.append_nil]
  | cons c blanks =>
    have hletters : ∀ c ∈ "TOTAL_".toList, isBlank c = false :=
      Chars.notBlank_of_any (by decide)
    refine Chars.prefix_append_cons (fun hc => ?_) _ _
    cases (hletters c hc).symm.trans (hblanks c List.mem_cons_self)

/-- A line that spells an error count is split at the blank in front of the number. -/
theorem Spells.trim_eq (h : e.Spells line) : ∃ blanks c number,
    (∀ c ∈ blanks, isBlank c = true) ∧ isBlank c = true ∧ (∀ c ∈ number, isBlank c = false) ∧
      Numeral.word64? (String.ofList number) = some e.count ∧
      trim line = (e.name.toList ++ blanks) ++ c :: number := by
  cases h with
  | intro front gap sign back width hfront hne hgap hsign hback =>
    obtain ⟨blanks, c, rfl⟩ := (List.eq_nil_or_concat' gap).resolve_left hne
    rw [List.forall_mem_append, List.forall_mem_singleton] at hgap
    have hnumber := number_notBlank hsign width e.count.toNat
    refine ⟨blanks, c, _, hgap.1, hgap.2, hnumber, word64?_number hsign width e.count, ?_⟩
    have hname : Chars.Trimmed e.name.toList := Chars.trimmed_of_notBlank e.name_notBlank
    have hnameNe : e.name.toList ≠ [] := String.toList_eq_nil_iff.not.mpr e.name_ne
    have hnumberNe : sign ++ Numeral.padStart width '0' (Nat.toDigits 10 e.count.toNat) ≠ [] :=
      List.append_ne_nil_of_right_ne_nil _ (Numeral.padStart_ne_nil 10 width _)
    rw [Chars.trim_of_blanks hfront hback,
      (hname.append (Chars.trimmed_of_notBlank hnumber) hnameNe hnumberNe _).trim_eq]
    simp

end ErrorCount

theorem errorRecord?_trim (line : List Char) :
    (errorRecord? ∘ String.ofList) (trim line) = (errorRecord? ∘ String.ofList) line := by
  have htrim : Text.trim (String.ofList (trim line)) = Text.trim (String.ofList line) := by
    rw [Text.trim_ofList, Text.trim_ofList, Chars.trim_trim]
  rw [Function.comp_apply, Function.comp_apply, errorRecord?, errorRecord?, htrim]

theorem errorRecord?_of_spells (h : e.Spells line) :
    errorRecord? (String.ofList line) = if e.isRecorded then some e.record else none := by
  obtain ⟨blanks, c, number, hblanks, hc, hnumber, hread, hline⟩ := h.trim_eq
  have hlist : (String.ofList (e.name.toList ++ blanks)).toList = e.name.toList ++ blanks :=
    String.toList_ofList
  have htotal : Text.beginsWith (String.ofList (e.name.toList ++ blanks)) "TOTAL_" =
      Text.beginsWith e.name "TOTAL_" := by
    rw [Bool.eq_iff_iff, Text.beginsWith_iff, Text.beginsWith_iff, hlist,
      e.prefix_total_iff hblanks]
  have hname : Text.trim (String.ofList (e.name.toList ++ blanks)) = e.name := by
    have hends : trim ([] ++ e.name.toList ++ blanks) = trim e.name.toList :=
      Chars.trim_of_blanks (List.forall_mem_nil _) hblanks e.name.toList
    rw [List.nil_append, (Chars.trimmed_of_notBlank e.name_notBlank).trim_eq] at hends
    rw [Text.trim_ofList, hends, String.ofList_toList]
  have hcut : Chars.cutLastWhere isBlank (Text.trim (String.ofList line)).toList =
      some (e.name.toList ++ blanks, number) := by
    rw [Text.toList_trim, String.toList_ofList, hline, Chars.cutLastWhere_append_cons hc hnumber]
  simp only [errorRecord?, hcut, hread, htotal, hname, Option.bind_eq_bind, Option.bind_some]
  by_cases hzero : e.count = 0
  · simp [ErrorCount.isRecorded, hzero]
  · cases htotals : Text.beginsWith e.name "TOTAL_" with
    | true => simp [ErrorCount.isRecorded, htotals]
    | false =>
      have hrecord : e.name ++ s!": {e.count}" = e.record :=
        String.append_assoc.symm
      simp [ErrorCount.isRecorded, htotals, hzero, hrecord]

/-! ## Files -/

theorem Lists.filterMap_contentLines (h : Lists counts text) :
    (contentLines text).filterMap (errorRecord? ∘ String.ofList) = recordsOf counts := by
  have hline {e line} (h : ErrorCount.Spells e line) (hend : '\n' ∉ line) :
      (contentLines line).filterMap (errorRecord? ∘ String.ofList) = recordsOf [e] := by
    obtain ⟨blanks, c, number, -, -, -, -, htrim⟩ := h.trim_eq
    have hne : trim line ≠ [] := by simp [htrim]
    rw [Chars.contentLines_singleton hend hne, List.filterMap_cons, errorRecord?_trim,
      Function.comp_apply, errorRecord?_of_spells h]
    cases hrecorded : e.isRecorded <;> simp [recordsOf, hrecorded]
  induction h with
  | nil hblank =>
    rw [Chars.contentLines_of_blank hblank]
    rfl
  | last hspells hend => exact hline hspells hend
  | count hspells hend _ ih =>
    rw [Chars.contentLines_append_cons, List.filterMap_append, hline hspells hend, ih, recordsOf,
      recordsOf, recordsOf, ← List.map_append, ← List.filter_append, List.singleton_append]
  | blank hblank _ ih =>
    rw [Chars.contentLines_append_cons, Chars.contentLines_of_blank hblank, List.nil_append, ih]

theorem errorRecords_of_read (h : t.read (Path.join device file) = .ok s) :
    errorRecords t device file =
      (contentLines s.toList).filterMap (errorRecord? ∘ String.ofList) := by
  have hlines (s : String) : (Text.lines s).filterMap errorRecord? =
      (contentLines s.toList).filterMap (errorRecord? ∘ String.ofList) := by
    rw [Text.lines, List.filterMap_map,
      Chars.filterMap_lines errorRecord?_trim (by decide +kernel)]
  unfold errorRecords attribute?
  rw [h]
  dsimp only
  by_cases hblank : Text.isBlank s = true
  · rw [if_pos hblank, Chars.contentLines_of_blank (List.all_eq_true.mp hblank)]
    rfl
  · rw [if_neg hblank]
    dsimp only
    rw [hlines, Text.toList_trim, Chars.contentLines_trim]

theorem FileLists.errorRecords_eq (h : FileLists t device file counts) :
    errorRecords t device file = recordsOf counts := by
  cases h with
  | text hread hlists => rw [errorRecords_of_read hread, hlists.filterMap_contentLines]
  | missing hread =>
    unfold errorRecords attribute?
    rw [hread]
    rfl

/-! ## Devices -/

/-- The entry with a name in the bus directory is a storage controller, and its files list these
error counts. -/
structure Counted (t : FileTree) (root name : String) (address : PciAddress) (path : String)
    (fatal nonfatal : List ErrorCount) : Prop where
  bus : t.isDirectory (Path.join root "bus/pci/devices") = true
  listed : name ∈ t.list (Path.join root "bus/pci/devices")
  named : PciAddress.ofText? name = some address
  leads : (t.canonical (Path.join (Path.join root "bus/pci/devices") name)).toOption.getD
    (Path.join (Path.join root "bus/pci/devices") name) = path
  storage : (number t path "class").toUInt32 >>> 16 = massStorage
  fatal : FileLists t path "aer_dev_fatal" fatal
  nonfatal : FileLists t path "aer_dev_nonfatal" nonfatal

theorem Counted.mem_pciDevices (h : Counted t root name address path fatal nonfatal)
    (log : Logger) : ∃ devices, (pciDevices log t root).outcome = .ok devices ∧
      ∃ d ∈ devices, d.address = address ∧ d.path = path := by
  have hsome : (pciDevice? t address path).isSome = true := by simp [pciDevice?, h.storage]
  obtain ⟨d, hd⟩ := Option.isSome_iff_exists.mp hsome
  have hentry : deviceAt? t (Path.join root "bus/pci/devices") name = some d := by
    rw [deviceAt?, h.named, Option.bind_some, h.leads, hd]
  obtain ⟨devices, hdevices⟩ : ∃ devices, (pciDevices log t root).outcome = .ok devices :=
    pciDevices_ok_iff.mpr h.bus
  exact ⟨devices, hdevices, d, (mem_pciDevices_iff hdevices d).mpr ⟨name, h.listed, hentry⟩,
    (of_pciDevice? hd).1, (of_pciDevice? hd).2.1⟩

/-- Whatever entries lead to a device, its errors are those of its own files. -/
theorem Counted.uncorrectableErrors_eq (h : Counted t root name address path fatal nonfatal)
    {d : PciDevice} (hdevices : (pciDevices log t root).outcome = .ok devices) (hd : d ∈ devices)
    (hpath : d.path = path) : d.uncorrectableErrors = recordsOf (fatal ++ nonfatal) := by
  obtain ⟨_, -, hentry⟩ := (mem_pciDevices_iff hdevices d).mp hd
  obtain ⟨_, -, hread⟩ := Option.bind_eq_some_iff.mp hentry
  obtain ⟨-, hleads, herrors⟩ := of_pciDevice? hread
  rw [herrors, ← hleads, hpath, uncorrectableFiles, List.flatMap_cons, List.flatMap_singleton,
    h.fatal.errorRecords_eq, h.nonfatal.errorRecords_eq, recordsOf, recordsOf, recordsOf,
    List.filter_append, List.map_append]

/-! ## Verdicts -/

/-- The verdict on a controller is that of error counts. -/
structure DecidedBy (counts : List ErrorCount) (c : RaidController) : Prop where
  status : c.verdict.status = .unhealthy ↔ ∃ e ∈ counts, e.isRecorded = true
  causes : c.verdict.causes = (recordsOf counts).map ("[ue] " ++ ·)

theorem decidedBy_of_errors {c : RaidController}
    (h : c.pci.uncorrectableErrors = recordsOf counts) : DecidedBy counts c where
  status := by
    rw [Verdict.status_eq_unhealthy, ← Bool.not_eq_true, RaidController.verdict_isHealthy, h,
      recordsOf, List.map_eq_nil_iff, List.filter_eq_nil_iff]
    simp
  causes := by rw [RaidController.verdict, h]

/-- What error counts decide about the device at a path: its records, the verdict on what is built
from it with any block devices and any inventory, and that on the controllers of any report. -/
structure Decide (t : FileTree) (root : String) (address : PciAddress) (path : String)
    (counts : List ErrorCount) : Prop where
  found : ∀ log, ∃ devices, (pciDevices log t root).outcome = .ok devices ∧
    ∃ d ∈ devices, d.address = address ∧ d.path = path
  records : ∀ log devices, (pciDevices log t root).outcome = .ok devices →
    ∀ d ∈ devices, d.path = path → d.uncorrectableErrors = recordsOf counts
  built : ∀ log devices, (pciDevices log t root).outcome = .ok devices →
    ∀ d ∈ devices, d.path = path → ∀ family stubs vendor,
      DecidedBy counts (Scanner.raidRecord d family stubs vendor)
  /-- Nothing else in the record of a controller makes a difference. -/
  alone : ∀ log devices, (pciDevices log t root).outcome = .ok devices →
    ∀ d ∈ devices, d.path = path → ∀ c : RaidController,
      c.pci.uncorrectableErrors = d.uncorrectableErrors → DecidedBy counts c
  reported : ∀ (s : Scanner) hostname generatedAt report, s.root = root →
    (s.scan t hostname generatedAt).outcome = .ok report →
      ∀ c ∈ report.raidControllers, c.pci.path = path → DecidedBy counts c

/-- The counts in the two uncorrectable files of a storage controller decide about its health, and
nothing else does. -/
theorem errorCounts_decide (h : Counted t root name address path fatal nonfatal) :
    Decide t root address path (fatal ++ nonfatal) where
  found := h.mem_pciDevices
  records _ _ hdevices _ hd hpath := h.uncorrectableErrors_eq hdevices hd hpath
  built _ _ hdevices d hd hpath family stubs vendor := by
    apply decidedBy_of_errors
    rw [Scanner.raidRecord_pci]
    exact h.uncorrectableErrors_eq hdevices hd hpath
  alone _ _ hdevices _ hd hpath _ hc :=
    decidedBy_of_errors (hc.trans (h.uncorrectableErrors_eq hdevices hd hpath))
  reported s _ _ _ hroot hreport c hc hpath := by
    obtain ⟨pcis, hpcis, pci, hpci, family, devices, vendor, rfl⟩ :=
      s.exists_of_mem_raidControllers t hreport hc
    rw [Scanner.raidRecord_pci] at hpath
    apply decidedBy_of_errors
    rw [Scanner.raidRecord_pci]
    exact h.uncorrectableErrors_eq (hroot ▸ hpcis) hpci hpath

def poisoned : ErrorCount := ⟨"PoisonTLP", 2, by decide, Chars.notBlank_of_any (by decide)⟩
def totalFatal : ErrorCount := ⟨"TOTAL_ERR_FATAL", 2, by decide, Chars.notBlank_of_any (by decide)⟩
def timedOut : ErrorCount := ⟨"CmpltTO", 1, by decide, Chars.notBlank_of_any (by decide)⟩

/-- A storage controller with these errors, and with one that was corrected. -/
def poisonedTree : FileTree := .ofEntries [
  (["bus"], .directory), (["bus", "pci"], .directory), (["bus", "pci", "devices"], .directory),
  (["bus", "pci", "devices", "0000:61:00.0"], .link "/devices/0000:61:00.0"),
  (["devices"], .directory), (["devices", "0000:61:00.0"], .directory),
  (["devices", "0000:61:00.0", "class"], .file (some "0x010700\n")),
  (["devices", "0000:61:00.0", "aer_dev_fatal"],
    .file (some "  PoisonTLP \t +02\n\nTOTAL_ERR_FATAL 2\n")),
  (["devices", "0000:61:00.0", "aer_dev_nonfatal"], .file (some "CmpltTO 1")),
  (["devices", "0000:61:00.0", "aer_dev_correctable"], .file (some "RxErr 4\n"))]

theorem lists_poisoned :
    Lists [poisoned, totalFatal] "  PoisonTLP \t +02\n\nTOTAL_ERR_FATAL 2\n".toList := by
  have hnone : ∀ c ∈ [], isBlank c = true := List.forall_mem_nil _
  have hpoisoned : poisoned.Spells "  PoisonTLP \t +02".toList :=
    .intro [' ', ' '] [' ', '\t', ' '] ['+'] [] 2 (List.all_eq_true.mp rfl) (List.cons_ne_nil _ _)
      (List.all_eq_true.mp rfl) (.inr rfl) hnone
  have htotal : totalFatal.Spells "TOTAL_ERR_FATAL 2".toList :=
    .intro [] [' '] [] [] 0 hnone (List.cons_ne_nil _ _) (List.all_eq_true.mp rfl) (.inl rfl) hnone
  have hrest : Lists [totalFatal] ([] ++ '\n' :: _) :=
    .blank hnone (.count htotal (by decide) (.nil hnone))
  exact .count hpoisoned (by decide) hrest

theorem lists_timedOut : Lists [timedOut] "CmpltTO 1".toList := by
  have hnone : ∀ c ∈ [], isBlank c = true := List.forall_mem_nil _
  refine .last (.intro [] [' '] [] [] 0 hnone (List.cons_ne_nil _ _) ?_ (.inl rfl) hnone) ?_
  · exact List.all_eq_true.mp rfl
  · decide

/-- Both kinds of error are recorded and make the controller unhealthy; the total is no record. -/
theorem errorCounts_decide_poisoned :
    ∃ devices, (pciDevices .fallback poisonedTree "/").outcome = .ok devices ∧
      ∃ d ∈ devices, d.uncorrectableErrors = ["PoisonTLP: 2", "CmpltTO: 1"] ∧
        (RaidController.kernelOnly d .sasIr []).verdict.status = .unhealthy ∧
        (RaidController.kernelOnly d .sasIr []).verdict.causes =
          ["[ue] PoisonTLP: 2", "[ue] CmpltTO: 1"] := by
  let counts := [poisoned, totalFatal] ++ [timedOut]
  have hcounted : Counted poisonedTree "/" "0000:61:00.0" ⟨0, 0x61, 0, 0⟩ "/devices/0000:61:00.0"
      [poisoned, totalFatal] [timedOut] :=
    { bus := by decide +kernel
      listed := by decide +kernel
      named := by decide +kernel
      leads := by decide +kernel
      storage := by decide +kernel
      fatal := .text (by decide +kernel) lists_poisoned
      nonfatal := .text (by decide +kernel) lists_timedOut }
  have h := errorCounts_decide hcounted
  obtain ⟨devices, hdevices, d, hd, -, hpath⟩ := h.found .fallback
  have hbuilt := h.built _ _ hdevices d hd hpath .sasIr [] none
  have hrecords : recordsOf counts = ["PoisonTLP: 2", "CmpltTO: 1"] := by decide +kernel
  have hrecorded : ∃ e ∈ counts, e.isRecorded = true := by decide +kernel
  refine ⟨devices, hdevices, d, hd, ?_, hbuilt.status.mpr hrecorded, ?_⟩
  · exact (h.records _ _ hdevices d hd hpath).trans hrecords
  · exact hbuilt.causes.trans (hrecords ▸ by decide +kernel)

end StorageInventory.Kernel
