import StorageInventory.Proofs.Vendor.Runs

/-!
# Binding a controller

Three tools learn the address of a controller in two ways: from the listing, or from the details of
each slot. Main statement: an inventory that is bound to an address is that of one listed controller
at this address, read from the details of that controller alone, and a listing with addresses is
followed by the commands of no other adapter (`bind_own_controller`).
-/

namespace StorageInventory.Vendor
variable {v : Vendor} {b : ToolBehaviour} {address : PciAddress}

/-- An inventory with the name of a listed controller, whose drives are what the answers to that
adapter's commands amount to, whatever a tool answers to all others. -/
structure ReadFrom (v : Vendor) (b : ToolBehaviour) (c : ListedController)
    (inventory : Inventory) : Prop where
  adapterId : inventory.controller.adapterId = c.adapterId
  drives : ∀ b' : ToolBehaviour,
    (∀ args ∈ decodeCommands v.family c.adapterId, b' v.family args = b v.family args) →
    ∃ read, ((v.behaving b').decode c).outcome = .ok read ∧
      read.volumes = inventory.volumes ∧ read.exposed = inventory.exposed ∧
      read.unconfigured = inventory.unconfigured

theorem readFrom_decode (h : ((v.behaving b).decode c).outcome = .ok inventory) :
    ReadFrom v b c inventory where
  adapterId := adapterId_of_decode (Attempt.toOption_eq_some_iff.mpr h)
  drives _ hsame := ⟨inventory, (decode_congr hsame).trans h, rfl, rfl, rfl⟩

theorem ReadFrom.completed (h : ReadFrom v b c inventory) (address : PciAddress) :
    ReadFrom v b c (completed inventory c address) where
  adapterId := h.adapterId
  drives := h.drives

/-! ## Addresses -/

/-- The record has an address, and one of the same bus, device and function. -/
def HasSlot (pci : Option PciAddress) (address : PciAddress) : Prop :=
  ∃ p, pci = some p ∧ p.bus = address.bus ∧ p.device = address.device ∧
    p.function = address.function

theorem any_sameSlot_iff {pci : Option PciAddress} :
    pci.any (·.sameSlot address) = true ↔ HasSlot pci address := by
  simp [Option.any_eq_true, HasSlot, PciAddress.sameSlot, and_assoc]

/-- Tools whose listing has addresses report none of their own. -/
theorem pci_of_decode (hfamily : v.family ≠ .smartArray)
    (h : (v.decode c).outcome = .ok inventory) : inventory.controller.pci = c.pci := by
  unfold decode at h
  cases hf : v.family with
  | megaRaid =>
    simp only [hf, MegaRaid.decode_outcome, Attempt.bind_eq_ok_iff, Attempt.map_eq_ok_iff] at h
    obtain ⟨_, _, _, _, _, _, _, _, _, _, rfl⟩ := h
    rfl
  | sasIr =>
    simp only [hf, SasIr.decode_outcome, Attempt.bind_eq_ok_iff] at h
    obtain ⟨_, _, h⟩ := h
    split at h
    · cases h
    · cases h; rfl
  | smartArray => exact absurd hf hfamily

/-! ## The controller that is read -/

theorem bind_eq_bindListed (hfamily : v.family ≠ .smartArray) (address : PciAddress) :
    v.bind address = bindListed v.family v.list v.decode address := by
  unfold bind
  cases hf : v.family with
  | megaRaid | sasIr => rfl
  | smartArray => exact absurd hf hfamily

theorem bind_listed_source (hfamily : v.family ≠ .smartArray)
    (h : (v.bind address).outcome = .ok inventory) :
    ∃ listed c read, v.list.outcome = .ok listed ∧ listed.find? (·.isAt address) = some c ∧
      (v.decode c).outcome = .ok read ∧ completed read c address = inventory := by
  rw [bind_eq_bindListed hfamily, ← Attempt.toOption_eq_some_iff, bindListed_toOption] at h
  simp only [Option.bind_eq_some_iff, Option.map_eq_some_iff, Attempt.toOption_eq_some_iff] at h
  obtain ⟨listed, hlisted, c, hc, read, hread, hinventory⟩ := h
  exact ⟨listed, c, read, hlisted, hc, hread, hinventory⟩

/-- A Smart Array inventory is that of a listed slot which reports the address. -/
theorem bind_searched_source (hfamily : v.family = .smartArray)
    (h : (v.bind address).outcome = .ok inventory) :
    ∃ listed c, v.list.outcome = .ok listed ∧ c ∈ listed ∧
      (v.decode c).outcome = .ok inventory ∧ HasSlot inventory.controller.pci address := by
  rw [← Attempt.toOption_eq_some_iff, bind_eq_pick, hfamily, Option.bind_eq_some_iff] at h
  obtain ⟨listed, hlisted, h⟩ := h
  obtain ⟨c, hc, hread⟩ := List.exists_of_findSome?_eq_some h
  obtain ⟨hread, hslot⟩ := Option.filter_eq_some_iff.mp hread
  exact ⟨listed, c, Attempt.toOption_eq_some_iff.mp hlisted, hc,
    Attempt.toOption_eq_some_iff.mp hread, any_sameSlot_iff.mp hslot⟩

theorem bind_readFrom (h : ((v.behaving b).bind address).outcome = .ok inventory) :
    HasSlot inventory.controller.pci address ∧
      ∃ listed c, (v.behaving b).list.outcome = .ok listed ∧ c ∈ listed ∧
        ReadFrom v b c inventory ∧
        (v.family ≠ .smartArray → listed.find? (·.isAt address) = some c) := by
  by_cases hfamily : (v.behaving b).family = .smartArray
  · obtain ⟨listed, c, hlisted, hc, hread, hslot⟩ := bind_searched_source hfamily h
    exact ⟨hslot, listed, c, hlisted, hc, readFrom_decode hread, fun hne => absurd hfamily hne⟩
  · obtain ⟨listed, c, read, hlisted, hc, hread, rfl⟩ := bind_listed_source hfamily h
    have hat := List.find?_some hc
    obtain ⟨p, hp, hslot⟩ := any_sameSlot_iff.mp hat
    have hpci : read.controller.pci = some p := (pci_of_decode hfamily hread).trans hp
    refine ⟨⟨p, ?_, hslot⟩, listed, c, hlisted, List.mem_of_find?_eq_some hc,
      (readFrom_decode hread).completed address, fun _ => hc⟩
    simp only [completed, hpci]
    rfl

/-! ## The commands that are run -/

/-- Behind the listing come the commands of the first listed controller at the address. -/
theorem bind_commands (hfamily : v.family ≠ .smartArray) (hlisted : v.list.outcome = .ok listed)
    (hc : listed.find? (·.isAt address) = some c) :
    (v.bind address).commands <+: listCommand v.family :: decodeCommands v.family c.adapterId := by
  rw [bind_eq_bindListed hfamily, bindListed, Attempt.commands_bind, list_commands hlisted, hlisted]
  simp only [hc, List.singleton_append, List.cons_prefix_cons, true_and]
  have hdecode : Attempt.commands (do return completed (← v.decode c) c address) =
      (v.decode c).commands := by
    rw [bind_pure_comp, Attempt.commands_map]
  rw [hdecode]
  exact decode_commands v c

/-- Without a controller at the address nothing is decoded. -/
theorem bind_notFound (hfamily : v.family ≠ .smartArray) (hlisted : v.list.outcome = .ok listed)
    (hnone : listed.find? (·.isAt address) = none) :
    (v.bind address).outcome = .error (.controllerNotFound v.family address) ∧
      (v.bind address).commands = [listCommand v.family] := by
  rw [bind_eq_bindListed hfamily, bindListed, Attempt.outcome_bind, Attempt.commands_bind,
    list_commands hlisted, hlisted]
  simp only [Attempt.ok_bind, hnone]
  exact ⟨rfl, rfl⟩

/-- Binding reads no controller but one at the address. An inventory has that address and the name
of a listed controller, and its drives come from the details of this adapter alone. When the listing
has addresses, that is the first listed controller that matches, and no other adapter is asked; when
none matches, nothing is. -/
theorem bind_own_controller (v : Vendor) (b : ToolBehaviour) (address : PciAddress) :
    (∀ inventory, ((v.behaving b).bind address).outcome = .ok inventory →
      HasSlot inventory.controller.pci address ∧
        ∃ listed c, (v.behaving b).list.outcome = .ok listed ∧ c ∈ listed ∧
          ReadFrom v b c inventory ∧
          (v.family ≠ .smartArray → listed.find? (·.isAt address) = some c)) ∧
    (v.family ≠ .smartArray → ∀ listed, (v.behaving b).list.outcome = .ok listed →
      (∀ c k, listed.find? (·.isAt address) = some c → k ≠ c.adapterId →
        ∀ args ∈ decodeCommands v.family k, args ∉ ((v.behaving b).bind address).commands) ∧
      ((∀ c ∈ listed, ¬HasSlot c.pci address) →
        ((v.behaving b).bind address).outcome = .error (.controllerNotFound v.family address) ∧
          ((v.behaving b).bind address).commands = [listCommand v.family])) := by
  refine ⟨fun inventory => bind_readFrom, fun hne listed hlisted => ?_⟩
  have hfamily : (v.behaving b).family ≠ .smartArray := hne
  refine ⟨?_, fun hnone => ?_⟩
  · intro c k hc hk args hargs hrun
    have hmem := (bind_commands hfamily hlisted hc).subset hrun
    rcases List.mem_cons.mp hmem with rfl | hown
    · exact listCommand_notMem _ _ hargs
    · exact hk (decodeCommands_unique _ hargs hown)
  · refine bind_notFound hfamily hlisted (List.find?_eq_none.mpr fun c hc hat => ?_)
    exact hnone c hc (any_sameSlot_iff.mp hat)

/-- A tool that lists a controller on bus 61 and one on bus 62, and has a disk behind the second. -/
def twoRowTools : ToolBehaviour
  | .sasIr, ["LIST"] => .ok ("0 SAS3008 1000h 97h 00h:61h:00h:00h 15d9h 0808h\n" ++
      "1 SAS3008 1000h 97h 00h:62h:00h:00h 15d9h 0808h")
  | .sasIr, ["1", "DISPLAY"] => .ok ("Physical device information\nDevice is a Hard disk\n" ++
      "Enclosure # : 2\nSlot # : 4\nSize (in MB)/(in sectors) : 1/2048")
  | family, _ => .error (.toolUnavailable family)

def twoRowVendor : Vendor where
  tool := {
    family := .sasIr
    program := some "/usr/sbin/sas3ircu"
    runner := { run := fun _ _ => .error .yaml } }
  log := .fallback

def secondRow : Inventory where
  controller := {
    adapterId := "1", pci := some { bus := 0x62 }, productName := "SAS3008" }
  exposed := [{ family := .sasIr, enclosure := "2", slot := "4", size := 1048576 }]

/-- The second controller is bound without a question about the first, and none is bound to a bus
that is not listed. -/
theorem bind_own_controller_secondRow :
    ((twoRowVendor.behaving twoRowTools).bind { bus := 0x62 }).outcome = .ok secondRow ∧
      HasSlot secondRow.controller.pci { bus := 0x62 } ∧
      ["0", "DISPLAY"] ∉ ((twoRowVendor.behaving twoRowTools).bind { bus := 0x62 }).commands ∧
      ((twoRowVendor.behaving twoRowTools).bind { bus := 0x63 }).outcome =
        .error (.controllerNotFound .sasIr { bus := 0x63 }) ∧
      ((twoRowVendor.behaving twoRowTools).bind { bus := 0x63 }).commands = [["LIST"]] := by
  have hbind : ((twoRowVendor.behaving twoRowTools).bind { bus := 0x62 }).outcome = .ok secondRow :=
    by decide +kernel
  have hlisted : (twoRowVendor.behaving twoRowTools).list.outcome = .ok [
      { adapterId := "0", pci := some { bus := 0x61 }, productName := "SAS3008" },
      { adapterId := "1", pci := some { bus := 0x62 }, productName := "SAS3008" }] := by
    decide +kernel
  obtain ⟨hread, hcommands⟩ := bind_own_controller twoRowVendor twoRowTools { bus := 0x62 }
  obtain ⟨-, hother⟩ := bind_own_controller twoRowVendor twoRowTools { bus := 0x63 }
  obtain ⟨hrun, -⟩ := hcommands (by decide) _ hlisted
  obtain ⟨-, hnone⟩ := hother (by decide) _ hlisted
  refine ⟨hbind, (hread _ hbind).1, ?_, hnone ?_⟩
  · exact hrun _ "0" rfl (by decide) _ (List.mem_singleton.mpr rfl)
  · simp only [← any_sameSlot_iff]
    decide

end StorageInventory.Vendor
