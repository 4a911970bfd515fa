import StorageInventory.Proofs.Address.Spellings
import StorageInventory.Proofs.Listing.Fields
import StorageInventory.Proofs.MegaRaid.Blocks
import StorageInventory.Proofs.SmartArray.Search

/-!
# Sources that agree on an address

Every tool shows the address of a controller in hexadecimal, each in its own way: with a letter
behind each field, field by field in a block without the domain, or as the kernel does. Main
statement (`addresses_meet`): each is read as the address that was shown, so that what a tool tells
of one address is found at another exactly when bus, device and function agree.
-/

namespace StorageInventory

open Listing (LastField)
open Numeral (IsHex)
open PciAddress (Shown Spells)

variable {a : PciAddress} {domain bus device function : List Char}

/-! ## SAS-IR -/

namespace SasIr
variable {device : List Char}

/-- The fields of an address with the letter `h` behind each. -/
def addressText (domain bus device function : List Char) : String :=
  ":".intercalate ([domain, bus, device, function].map fun cs => String.ofList (cs ++ ['h']))

theorem addressField?_eq {n : UInt32} (h : IsHex n.toNat cs) :
    addressField? (String.ofList (cs ++ ['h'])) = some n := by
  have hkeep : cs.rdropWhile (· == 'h') = cs := by
    rw [List.rdropWhile_eq_self_iff]
    intro hne
    have hlast := h.isHexDigit _ (List.getLast_mem hne)
    intro heq
    rw [beq_iff_eq.mp heq] at hlast
    cases hlast
  rw [addressField?, Text.dropEndWhile, String.toList_ofList, Chars.dropEndWhile_eq_rdropWhile,
    List.rdropWhile_concat_pos _ _ _ rfl, hkeep, h.hex32?_eq]

/-- The fields of an address are cut at the colons, and each keeps its letter. -/
theorem pieces_addressText (h : Shown a domain bus device function) :
    Text.piecesAt (Text.lower (addressText domain bus device function)) ':' =
      [domain, bus, device, function].map fun cs =>
        String.ofList (cs.map Char.toLower ++ ['h']) := by
  have hlower : (Text.lower (addressText domain bus device function)).toList =
      [':'].intercalate
        ([domain, bus, device, function].map fun cs => cs.map Char.toLower ++ ['h']) := by
    simp [Text.lower, addressText, List.intercalate_cons_cons]
  have hcolon {n : Nat} {cs : List Char} (h : IsHex n cs) :
      ∀ c ∈ cs.map Char.toLower ++ ['h'], (c == ':') = false := by
    intro c hc
    rw [beq_eq_false_iff_ne]
    rintro rfl
    rcases List.mem_append.mp hc with hc | hc
    · exact h.map_toLower.notMem rfl hc
    · exact absurd hc (by decide)
  rw [Text.piecesAt, hlower, Chars.pieces_intercalate (by rfl) (by simp), List.map_map]
  · rfl
  · rw [List.forall_mem_map]
    rintro cs hcs
    rcases hcs with _ | ⟨_, _ | ⟨_, _ | ⟨_, _ | ⟨_, hcs⟩⟩⟩⟩
    · exact hcolon h.domain
    · exact hcolon h.bus
    · exact hcolon h.device
    · exact hcolon h.function
    · cases hcs

/-- A field of the display is read as the address that it shows. -/
theorem address?_eq (h : Shown a domain bus device function) :
    address? (addressText domain bus device function) = some a := by
  rw [address?, pieces_addressText h]
  simp only [List.map_cons, List.map_nil, List.mapM_cons, List.mapM_nil,
    addressField?_eq h.domain.map_toLower, addressField?_eq h.bus.map_toLower,
    addressField?_eq h.device.map_toLower, addressField?_eq h.function.map_toLower]
  rfl

/-- A row of the listing. -/
theorem controllers_row {n : UInt32} (h : Shown a domain bus device function)
    (hwords : Text.words line =
      [toString n, type, vendor, kind, addressText domain bus device function, vendor', kind']) :
    controllers [line] = [{ adapterId := toString n, pci := some a, productName := type }] := by
  have hrow : controller? line =
      some { adapterId := toString n, pci := some a, productName := type } := by
    simp [controller?, hwords, Numeral.word32?_toString, address?_eq h]
  rw [controllers, List.filterMap_cons_some hrow, List.filterMap_nil]

end SasIr

/-! ## MegaRAID -/

namespace MegaRaid

/-- The header of the block of a controller. -/
def controllerHeader (n : UInt32) : String :=
  "PCI information for Controller" ++ " " ++ toString n

/-- The last field of a key is a number in hexadecimal. -/
def ShowsNumber (body : List String) (key : String) (n : UInt32) : Prop :=
  ∃ cs, LastField (Listing.fields ":" body) key (String.ofList cs) ∧ IsHex n.toNat cs

/-- The lines of a block show an address, but for its domain. -/
structure ShowsAddress (a : PciAddress) (body : List String) : Prop where
  noHeader : ∀ line ∈ body, isControllerHeader line = false
  bus : ShowsNumber body "Bus Number" a.bus
  device : ShowsNumber body "Device Number" a.device
  function : ShowsNumber body "Function Number" a.function

theorem toList_controllerHeader (n : UInt32) : (controllerHeader n).toList =
    "PCI information for Controller".toList ++ ' ' :: (toString n).toList := by
  -- rewriting with the definition would make Lean compute with the literals
  change ("PCI information for Controller" ++ " " ++ toString n).toList = _
  rw [String.toList_append, String.toList_append, List.append_assoc]
  rfl

theorem toString_notBlank (n : UInt32) :
    (toString n).toList ≠ [] ∧ ∀ c ∈ (toString n).toList, Chars.isBlank c = false := by
  constructor
  · exact Numeral.toList_toString n.toNat ▸ Nat.toDigits_ne_nil
  · exact fun c hc => Chars.isBlank_of_isDigit (Numeral.isDigit_of_mem_toString hc)

theorem isControllerHeader_header (n : UInt32) :
    isControllerHeader (controllerHeader n) = true := by
  obtain ⟨hne, hblank⟩ := toString_notBlank n
  have htrimmed : Chars.Trimmed (controllerHeader n).toList := by
    rw [toList_controllerHeader, ← List.singleton_append, ← List.append_assoc]
    exact Chars.Trimmed.append (Chars.trimmed_of_trim_eq (by decide +kernel))
      (Chars.trimmed_of_notBlank hblank) (by decide) hne [' ']
  rw [isControllerHeader, Text.trim, htrimmed.trim_eq, String.ofList_toList, Text.beginsWith_iff,
    toList_controllerHeader]
  exact List.prefix_append _ _

/-- The header of a block gives the number of its controller. -/
theorem controllerNumber?_header (n : UInt32) :
    controllerNumber? (controllerHeader n) = some n := by
  obtain ⟨hne, hblank⟩ := toString_notBlank n
  have hwords := Chars.words_of_notBlank hne hblank
  rw [controllerNumber?, Text.words, toList_controllerHeader, Chars.words_append_cons _ rfl, hwords,
    List.map_append, List.map_singleton, List.getLast?_concat, String.ofList_toList]
  exact Numeral.word32?_toString n

/-- A block gives bus, device and function, and leaves the domain at zero. -/
theorem foldl_setAddressField (h : ShowsAddress a body) :
    (Listing.fields ":" body).foldl setAddressField {} = { a with domain := 0 } := by
  obtain ⟨-, ⟨bus, hbus, hbusHex⟩, ⟨device, hdevice, hdeviceHex⟩,
    ⟨function, hfunction, hfunctionHex⟩⟩ := h
  generalize Listing.fields ":" body = fs at *
  have hdomain : (fs.foldl setAddressField {}).domain = 0 :=
    Listing.foldl_keeps PciAddress.domain (by grind [setAddressField]) {}
  have hbus : (fs.foldl setAddressField {}).bus = a.bus :=
    Listing.foldl_lastField PciAddress.bus hbus
      (fun v => by simp [setAddressField, hbusHex.hex32?_eq]) (by grind [setAddressField]) {}
  have hdevice : (fs.foldl setAddressField {}).device = a.device :=
    Listing.foldl_lastField PciAddress.device hdevice
      (fun v => by simp [setAddressField, hdeviceHex.hex32?_eq]) (by grind [setAddressField]) {}
  have hfunction : (fs.foldl setAddressField {}).function = a.function :=
    Listing.foldl_lastField PciAddress.function hfunction
      (fun v => by simp [setAddressField, hfunctionHex.hex32?_eq]) (by grind [setAddressField]) {}
  generalize fs.foldl setAddressField {} = read at *
  cases read
  simp_all

/-- A number as the tool prints it, behind its key and spaces. -/
def numberLine (key : String) (cs : List Char) : String := key ++ ": " ++ String.ofList cs

/-- What the tool prints behind the header of a controller. -/
def numberLines (bus device function : List Char) : List String := [
  "--------------------------------",
  numberLine "Bus Number      " bus,
  numberLine "Device Number   " device,
  numberLine "Function Number " function]

theorem trim_numberLine {key : String} (hhead : key.toList.head? = some c)
    (hc : Chars.isBlank c = false) (h : IsHex n cs) :
    (Text.trim (numberLine key cs)).toList = key.toList ++ ':' :: ' ' :: cs := by
  have hchars : (numberLine key cs).toList = key.toList ++ ':' :: ' ' :: cs := by
    simp [numberLine]
  have htrimmed : Chars.Trimmed (key.toList ++ ':' :: ' ' :: cs) := by
    constructor
    · intro d hd
      rw [List.head?_append, hhead, Option.some_or] at hd
      exact Option.some.inj hd ▸ hc
    · intro d hd
      have happend : key.toList ++ ':' :: ' ' :: cs = (key.toList ++ [':', ' ']) ++ cs := by simp
      rw [happend, List.getLast?_append_of_ne_nil _ h.ne_nil] at hd
      exact h.notBlank d (List.mem_of_getLast? hd)
  rw [Text.trim, String.toList_ofList, hchars, htrimmed.trim_eq]

theorem keyValue?_numberLine {key : String} (hhead : key.toList.head? = some c)
    (hc : Chars.isBlank c = false) (hcolon : ':' ∉ key.toList) (h : IsHex n cs) :
    Text.keyValue? (numberLine key cs) ":" = some (Text.trim key, String.ofList cs) := by
  have hvalue : Chars.trim (' ' :: cs) = cs := by
    rw [Chars.trim_cons_of_blank rfl, (Chars.trimmed_of_notBlank h.notBlank).trim_eq]
  have hread := Text.keyValue?_of_cut (trim_numberLine hhead hc h) hcolon
  rwa [hvalue] at hread

theorem isControllerHeader_numberLine {key : String} (hhead : key.toList.head? = some c)
    (hc : Chars.isBlank c = false) (hother : c ≠ 'P') (h : IsHex n cs) :
    isControllerHeader (numberLine key cs) = false := by
  rw [isControllerHeader, ← Bool.not_eq_true, Text.beginsWith_iff, trim_numberLine hhead hc h]
  obtain ⟨key', hkey⟩ := List.head?_eq_some_iff.mp hhead
  rw [hkey]
  intro hprefix
  exact hother (List.cons_prefix_cons.mp hprefix).1.symm

/-- The lines of a block are read as three fields, with the blanks around them gone. -/
theorem fields_numberLines (hbus : IsHex l bus) (hdevice : IsHex m device)
    (hfunction : IsHex n function) : Listing.fields ":" (numberLines bus device function) =
      [("Bus Number", String.ofList bus), ("Device Number", String.ofList device),
        ("Function Number", String.ofList function)] := by
  have hrule : Text.keyValue? "--------------------------------" ":" = none := by decide +kernel
  have hskip : Listing.fields ":" (numberLines bus device function) =
      Listing.fields ":" (numberLines bus device function).tail :=
    List.filterMap_cons_none hrule
  rw [hskip, numberLines, List.tail_cons,
    fields_cons (keyValue?_numberLine rfl rfl (by decide) hbus),
    fields_cons (keyValue?_numberLine rfl rfl (by decide) hdevice),
    fields_cons (keyValue?_numberLine rfl rfl (by decide) hfunction)]
  rfl

theorem showsAddress_numberLines (hbus : IsHex a.bus.toNat bus)
    (hdevice : IsHex a.device.toNat device) (hfunction : IsHex a.function.toNat function) :
    ShowsAddress a (numberLines bus device function) := by
  have hfields := fields_numberLines hbus hdevice hfunction
  constructor
  · simp only [numberLines, List.forall_mem_cons]
    exact ⟨by decide +kernel, isControllerHeader_numberLine rfl rfl (by decide) hbus,
      isControllerHeader_numberLine rfl rfl (by decide) hdevice,
      isControllerHeader_numberLine rfl rfl (by decide) hfunction,
      fun line hline => absurd hline List.not_mem_nil⟩
  · exact ⟨bus, ⟨[], _, hfields, by simp⟩, hbus⟩
  · exact ⟨device, ⟨[_], _, hfields, by simp⟩, hdevice⟩
  · exact ⟨function, ⟨[_, _], _, hfields, by simp⟩, hfunction⟩

/-- A block of the listing is one controller, at the address that its lines show. -/
theorem controllers_block (n : UInt32) (h : ShowsAddress a body) (log : Logger) :
    (controllers log (controllerHeader n :: body)).value =
      [{ adapterId := toString n, pci := some { a with domain := 0 } }] := by
  rw [(listings_by_block log).controller _ _ n (isControllerHeader_header n)
    (controllerNumber?_header n) h.noHeader, foldl_setAddressField h]

end MegaRaid

/-! ## Smart Array -/

namespace SmartArray

/-- The key of a controller's address. -/
def addressKey : String := "PCI Address (Domain:Bus:Device.Function)"

theorem adapter_pci (h : LastField (Listing.fields ": " own) addressKey s) (hs : Spells s a) :
    (adapter own).pci = some a := by
  refine Listing.foldl_lastField ControllerRecord.pci h (fun record => ?_) ?_ _
  · simpa [setControllerField, addressKey] using hs.ofText?_eq
  · grind [setControllerField, addressKey]

/-- The details of a controller give the address that the last line about it spells. -/
theorem decode_pci {tool : Tool} {c : ListedController}
    (hrun : (tool.run (detailCommand c)).outcome = .ok output)
    (h : LastField (Listing.fields ": " (parts (Text.lines output)).1) addressKey s)
    (hs : Spells s a) (log : Logger) :
    ∃ inventory, (decode tool log c).outcome = .ok inventory ∧
      inventory.controller.pci = some a := by
  have hown : (parts (Text.lines output)).1.isEmpty = false := by
    obtain ⟨front, back, hfields, -⟩ := h
    refine List.isEmpty_eq_false_iff.mpr fun hnil => ?_
    rw [hnil] at hfields
    exact List.append_ne_nil_of_right_ne_nil front (List.cons_ne_nil _ back) hfields.symm
  refine ⟨inventory c (parts (Text.lines output)).1 (parts (Text.lines output)).2, ?_, ?_⟩
  · have hcommand :
        ["controller", "slot=" ++ c.adapterId, "show", "config", "detail"] = detailCommand c := rfl
    rw [decode_outcome, hcommand, hrun, Attempt.ok_bind]
    simp [hown]
  · rw [inventory, adapter_pci h hs]
    rfl

end SmartArray

/-! ## Agreement -/

/-- The address that is read from what a tool tells of a controller at `a`: from its block, from its
row, or from the details of its slot. -/
inductive Told (log : Logger) (a : PciAddress) : Option PciAddress → Prop
  | megaRaid {c : ListedController} : MegaRaid.ShowsAddress a body →
    c ∈ (MegaRaid.controllers log (MegaRaid.controllerHeader n :: body)).value → Told log a c.pci
  | sasIr {n : UInt32} {domain bus device function : List Char} {c : ListedController} :
    Shown a domain bus device function →
    Text.words line =
      [toString n, type, w, x, SasIr.addressText domain bus device function, y, z] →
    c ∈ SasIr.controllers [line] → Told log a c.pci
  | smartArray {tool : Tool} {inventory : Inventory} :
    (tool.run (SmartArray.detailCommand c)).outcome = .ok output →
    LastField (Listing.fields ": " (SmartArray.parts (Text.lines output)).1)
      SmartArray.addressKey s →
    Spells s a → (SmartArray.decode tool log c).outcome = .ok inventory →
    Told log a inventory.controller.pci

/-- A listing tells a whole address, or one without its domain. -/
theorem Told.eq (h : Told log a pci) : pci = some a ∨ pci = some { a with domain := 0 } := by
  cases h with
  | megaRaid hshows hc =>
    rw [MegaRaid.controllers_block _ hshows, List.mem_singleton] at hc
    exact .inr (hc ▸ rfl)
  | sasIr hshown hwords hc =>
    rw [SasIr.controllers_row hshown hwords, List.mem_singleton] at hc
    exact .inl (hc ▸ rfl)
  | smartArray hrun hlast hs hdecode =>
    obtain ⟨inventory, hread, hpci⟩ := SmartArray.decode_pci hrun hlast hs log
    obtain rfl := Except.ok.inj (hdecode.symm.trans hread)
    exact .inl hpci

/-- What is told of one address is found at another when they agree but for the domain. -/
theorem Told.sameSlot_iff (h : Told log a pci) (b : PciAddress) :
    pci.any (·.sameSlot b) = true ↔
      a.bus = b.bus ∧ a.device = b.device ∧ a.function = b.function := by
  rcases h.eq with rfl | rfl <;> simp [PciAddress.sameSlot, and_assoc]

/-- All spellings of an address are read as it. -/
structure AddressesMeet (log : Logger) : Prop where
  text : ∀ a : PciAddress, PciAddress.parse a.text = .ok a
  spelled : ∀ s a, Spells s a → PciAddress.parse s = .ok a
  sasIr : ∀ a domain bus device function, Shown a domain bus device function →
    SasIr.address? (SasIr.addressText domain bus device function) = some a
  sasIrRow : ∀ a domain bus device function line (n : UInt32) type w x y z,
    Shown a domain bus device function →
    Text.words line =
      [toString n, type, w, x, SasIr.addressText domain bus device function, y, z] →
    SasIr.controllers [line] = [{ adapterId := toString n, pci := some a, productName := type }]
  /-- The block of a controller does not show the domain, which is taken to be zero. -/
  megaRaid : ∀ (n : UInt32) a body, MegaRaid.ShowsAddress a body →
    (MegaRaid.controllers log (MegaRaid.controllerHeader n :: body)).value =
      [{ adapterId := toString n, pci := some { a with domain := 0 } }]
  megaRaidPrinted : ∀ a bus device function, IsHex a.bus.toNat bus →
    IsHex a.device.toNat device → IsHex a.function.toNat function →
    MegaRaid.ShowsAddress a (MegaRaid.numberLines bus device function)
  smartArray : ∀ own s a, LastField (Listing.fields ": " own) SmartArray.addressKey s → Spells s a →
    (SmartArray.adapter own).pci = some a
  smartArraySlot : ∀ tool c output s a,
    (tool.run (SmartArray.detailCommand c)).outcome = .ok output →
    LastField (Listing.fields ": " (SmartArray.parts (Text.lines output)).1)
      SmartArray.addressKey s →
    Spells s a → ∃ inventory, (SmartArray.decode tool log c).outcome = .ok inventory ∧
      inventory.controller.pci = some a
  sameSlot : ∀ a b pci, Told log a pci →
    (pci.any (·.sameSlot b) = true ↔
      a.bus = b.bus ∧ a.device = b.device ∧ a.function = b.function)

/-- Every spelling is read back, and two addresses meet by bus, device and function. -/
theorem addresses_meet (log : Logger) : AddressesMeet log where
  text a := a.spells_text.parse_eq
  spelled _ _ h := h.parse_eq
  sasIr _ _ _ _ _ := SasIr.address?_eq
  sasIrRow _ _ _ _ _ _ _ _ _ _ _ _ := SasIr.controllers_row
  megaRaid n _ _ h := MegaRaid.controllers_block n h log
  megaRaidPrinted _ _ _ _ := MegaRaid.showsAddress_numberLines
  smartArray _ _ _ := SmartArray.adapter_pci
  smartArraySlot _ _ _ _ _ hrun h hs := SmartArray.decode_pci hrun h hs log
  sameSlot _ b _ h := h.sameSlot_iff b

/-- An address with a wide domain, on bus 26. -/
def wideAddress : PciAddress := ⟨0x10000, 0x1a, 0, 1⟩

/-- The details of a slot at this address. -/
def slotText : String :=
  "Smart Array P440ar in Slot 0\n   PCI Address (Domain:Bus:Device.Function): 10000:1A:0.1\n"

/-- A tool that answers them. -/
def slotTool : Tool where
  family := .smartArray
  program := some "tool"
  runner := { run := fun _ _ => .ok slotText }

/-- A text, a row, a block and a slot tell of one controller, which is found without its domain. -/
theorem addresses_meet_wide :
    PciAddress.parse "10000:1a:00.1" = .ok wideAddress ∧
      SasIr.controllers ["  3  SAS3008  1000h  97h  10000h:1Ah:0h:01h  1000h  3090h"] =
        [{ adapterId := "3", pci := some wideAddress, productName := "SAS3008" }] ∧
      (MegaRaid.controllers .fallback ["PCI information for Controller 3",
        "--------------------------------", "Bus Number      : 1a", "Device Number   : 0",
        "Function Number : 1"]).value = [{ adapterId := "3", pci := some ⟨0, 0x1a, 0, 1⟩ }] ∧
      ∃ inventory,
        (SmartArray.decode slotTool .fallback { adapterId := "0" }).outcome = .ok inventory ∧
        inventory.controller.pci = some wideAddress ∧
        inventory.controller.pci.any (·.sameSlot ⟨0, 0x1a, 0, 1⟩) = true := by
  have h := addresses_meet .fallback
  have hdevice : IsHex wideAddress.device.toNat "0".toList := ⟨1, by decide⟩
  have hfunction : IsHex wideAddress.function.toNat "1".toList := ⟨1, by decide⟩
  have hrow : Shown wideAddress "10000".toList "1A".toList "0".toList "01".toList :=
    ⟨⟨5, by decide⟩, ⟨2, by decide⟩, hdevice, ⟨2, by decide⟩⟩
  have hslot : Spells "10000:1A:0.1" wideAddress :=
    .intro [] "10000".toList "1A".toList "0".toList "1".toList [] (by decide +kernel) (by simp)
      ⟨hrow.domain, hrow.bus, hdevice, hfunction⟩ (by simp)
  have hrun : (slotTool.run (SmartArray.detailCommand { adapterId := "0" })).outcome =
      .ok slotText := by decide +kernel
  have hlast : LastField (Listing.fields ": " (SmartArray.parts (Text.lines slotText)).1)
      SmartArray.addressKey "10000:1A:0.1" := ⟨[], [], by decide +kernel, by simp⟩
  refine ⟨h.text wideAddress, ?_, ?_, ?_⟩
  · exact h.sasIrRow wideAddress _ _ _ _ _ 3 "SAS3008" "1000h" "97h" "1000h" "3090h" hrow
      (by decide +kernel)
  · exact h.megaRaid 3 wideAddress _
      (h.megaRaidPrinted _ "1a".toList _ _ ⟨2, by decide⟩ hdevice hfunction)
  · obtain ⟨inventory, hdecode, hpci⟩ := h.smartArraySlot _ _ _ _ _ hrun hlast hslot
    exact ⟨inventory, hdecode, hpci,
      (h.sameSlot _ _ _ (.smartArray hrun hlast hslot hdecode)).mpr (by decide)⟩

end StorageInventory
