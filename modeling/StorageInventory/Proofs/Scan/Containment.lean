import StorageInventory.FileTree.Build
import StorageInventory.Proofs.Scan.KernelView
import StorageInventory.Proofs.Vendor.Commands

/-!
# The failure of one adapter

Two runs with the same tools, of which one adapter fails in the second. Binding loses the inventory
of that adapter and no other (`bind_outage`), so a record that was made without it is the same in
both runs, and one that was made with it falls back on the kernel's part or, for a Smart Array, on
a slot that is listed later (`scan_contained`).
-/

namespace StorageInventory

/-- The second behaviour differs from the first in the commands of one adapter alone, and at least
one of these fails. -/
structure AdapterFails (family : RaidFamily) (k : String) (b b' : ToolBehaviour) : Prop where
  agree : ∀ f args, (f = family → args ∉ Vendor.decodeCommands family k) → b f args = b' f args
  fails : ∃ args ∈ Vendor.decodeCommands family k, CommandFails (b' family args)

namespace Vendor

/-! ## Picking without an adapter -/

/-- The inventories that are left when those of an adapter are lost. -/
def without (k : String) (read : ListedController → Option Inventory) (c : ListedController) :
    Option Inventory :=
  if c.adapterId = k then none else read c

/-- What picking gives with all inventories and without those of an adapter: what other adapters
give is the same, and what the adapter gave is lost, or replaced by a Smart Array slot behind it
that has the address. -/
inductive Outage (family : RaidFamily) (k : String) (address : PciAddress)
    (read : ListedController → Option Inventory) (listed : List ListedController) :
    Option Inventory → Option Inventory → Prop
  | same : (∀ inventory ∈ i, inventory.controller.adapterId ≠ k) →
    Outage family k address read listed i i
  | lost : inventory.controller.adapterId = k →
    Outage family k address read listed (some inventory) none
  | later : family = .smartArray → listed = front ++ x :: (mid ++ y :: back) →
    x.adapterId = k → read x = some inventory → inventory.controller.adapterId = k →
    y.adapterId ≠ k → read y = some inventory' →
    inventory'.controller.pci.any (·.sameSlot address) = true →
    Outage family k address read listed (some inventory) (some inventory')

section
variable {read : ListedController → Option Inventory} {listed : List ListedController} {k : String}
  {address : PciAddress}

theorem pick_listed_outage (family : RaidFamily)
    (hread : ∀ c inventory, read c = some inventory → inventory.controller.adapterId = c.adapterId)
    (listed : List ListedController) :
    Outage family k address read listed
      ((listed.find? (·.isAt address)).bind fun c => (read c).map (completed · c address))
      ((listed.find? (·.isAt address)).bind fun c =>
        (without k read c).map (completed · c address)) := by
  cases listed.find? (·.isAt address) with
  | none => exact .same (by simp)
  | some c =>
    simp only [Option.bind_some, without]
    cases hc : read c with
    | none => simpa using .same (by simp)
    | some inventory =>
      have hid := hread c inventory hc
      by_cases hk : c.adapterId = k
      · simp only [hk, if_true]
        exact .lost (hid.trans hk)
      · simp only [hk, if_false]
        refine .same fun i hi => ?_
        obtain rfl := Option.some.inj hi
        exact fun h => hk (hid.symm.trans h)

theorem findSome?_without (h : ∀ c ∈ listed, readAt address read c = none) :
    listed.findSome? (readAt address (without k read)) = none := by
  rw [List.findSome?_eq_none_iff]
  intro c hc
  unfold readAt without
  split
  · rfl
  · exact h c hc

theorem pick_searched_outage
    (hread : ∀ c inventory, read c = some inventory → inventory.controller.adapterId = c.adapterId)
    (listed : List ListedController) :
    Outage .smartArray k address read listed (listed.findSome? (readAt address read))
      (listed.findSome? (readAt address (without k read))) := by
  cases hfound : listed.findSome? (readAt address read) with
  | none =>
    rw [findSome?_without (List.findSome?_eq_none_iff.mp hfound)]
    exact .same (by simp)
  | some inventory =>
    obtain ⟨front, x, rest, rfl, hx, hfront⟩ := List.findSome?_eq_some_iff.mp hfound
    obtain ⟨hreadx, -⟩ := Option.filter_eq_some_iff.mp hx
    have hid := hread x inventory hreadx
    rw [List.findSome?_append, findSome?_without hfront, Option.none_or, List.findSome?_cons]
    by_cases hk : x.adapterId = k
    · have hlost : readAt address (without k read) x = none := by simp [readAt, without, hk]
      rw [hlost]
      -- the search goes on behind the failed slot
      cases hlater : rest.findSome? (readAt address (without k read)) with
      | none => exact .lost (hid.trans hk)
      | some inventory' =>
        obtain ⟨mid, y, back, rfl, hy, -⟩ := List.findSome?_eq_some_iff.mp hlater
        obtain ⟨hready, haddress⟩ := Option.filter_eq_some_iff.mp hy
        unfold without at hready
        split at hready
        · cases hready
        · exact .later rfl rfl hk hreadx (hid.trans hk) ‹_› hready haddress
    · have hkept : readAt address (without k read) x = some inventory := by
        simpa [readAt, without, hk] using hx
      rw [hkept]
      refine .same fun i hi => ?_
      obtain rfl := Option.some.inj hi
      exact fun h => hk (hid.symm.trans h)

theorem pick_outage (family : RaidFamily)
    (hread : ∀ c inventory, read c = some inventory → inventory.controller.adapterId = c.adapterId)
    (listed : List ListedController) :
    Outage family k address read listed (pick family address read listed)
      (pick family address (without k read) listed) := by
  cases family with
  | megaRaid | sasIr => exact pick_listed_outage _ hread listed
  | smartArray => exact pick_searched_outage hread listed

end

/-! ## Binding without an adapter -/

section
variable {family : RaidFamily} {k : String} {b b' : ToolBehaviour}

/-- The tools of other families answer alike in all commands. -/
theorem bind_of_family_ne (h : AdapterFails family k b b') {v : Vendor} (hv : v.family ≠ family)
    (address : PciAddress) :
    ((v.behaving b').bind address).outcome.toOption =
      ((v.behaving b).bind address).outcome.toOption := by
  have hagree : ∀ args, b v.family args = b' v.family args :=
    fun args => h.agree _ args fun he => absurd he hv
  have hread : (fun c => ((v.behaving b').decode c).outcome.toOption) =
      fun c => ((v.behaving b).decode c).outcome.toOption := by
    funext c
    rw [decode_congr fun args _ => hagree args]
  simp only [bind_eq_pick, family_behaving, hread, list_congr (hagree _)]

/-- A failed adapter is not read, and all others are read as before. -/
theorem decode_adapterFails (h : AdapterFails family k b b') {v : Vendor} (hv : v.family = family) :
    (fun c => ((v.behaving b').decode c).outcome.toOption) =
      without k fun c => ((v.behaving b).decode c).outcome.toOption := by
  subst hv
  funext c
  unfold without
  split
  · rename_i hk
    obtain ⟨args, hargs, hfails⟩ := h.fails
    exact decode_of_fails (hk ▸ hargs) hfails
  · rename_i hk
    rw [decode_congr fun args hargs => (h.agree _ args fun _ hargs' =>
      hk (decodeCommands_unique _ hargs hargs')).symm]

/-- Either the listing itself gives nothing, in both runs, or what is bound is what is left of the
listed adapters. -/
theorem bind_outage (h : AdapterFails family k b b') {v : Vendor} (hv : v.family = family)
    (address : PciAddress) :
    (((v.behaving b).bind address).outcome.toOption = none ∧
      ((v.behaving b').bind address).outcome.toOption = none) ∨
    ∃ listed, (v.behaving b).list.outcome = .ok listed ∧
      Outage family k address (fun c => ((v.behaving b).decode c).outcome.toOption) listed
        ((v.behaving b).bind address).outcome.toOption
        ((v.behaving b').bind address).outcome.toOption := by
  have hlist : (v.behaving b').list.outcome = (v.behaving b).list.outcome :=
    (list_congr (h.agree _ _ fun _ => listCommand_notMem family k ∘ (hv ▸ id))).symm
  rw [bind_eq_pick, bind_eq_pick, decode_adapterFails h hv, hlist]
  cases hlisted : (v.behaving b).list.outcome with
  | error e => exact .inl ⟨rfl, rfl⟩
  | ok listed =>
    refine .inr ⟨listed, rfl, ?_⟩
    simp only [family_behaving, hv, Attempt.toOption_ok, Option.bind_some]
    exact pick_outage family (fun c _ => adapterId_of_decode) listed

end

end Vendor

/-! ## Records without an adapter -/

/-- The record was made with the inventory of an adapter. -/
structure RaidController.EnrichedFrom (c : RaidController) (family : RaidFamily) (k : String) :
    Prop where
  enriched : c.vendorEnriched = true
  family : c.family = family
  adapterId : c.adapterId = k

namespace Scanner

/-- The scanner with tools that behave in the given way. -/
def withTools (s : Scanner) (b : ToolBehaviour) : Scanner :=
  { s with vendors := s.vendors.map (·.behaving b) }

/-- What is left of a record whose adapter fails. The kernel's part is shown alone, or with the
inventory of a Smart Array slot that is listed behind the failed one and reports the same
address. -/
inductive Fallback (v v' : Vendor) (k : String) (c : RaidController) : RaidController → Prop
  | kernelOnly : devices.Perm c.devices → Fallback v v' k c (.kernelOnly c.pci c.family devices)
  | laterSlot : devices.Perm c.devices → c.family = .smartArray →
    v.list.outcome = .ok (front ++ x :: (mid ++ y :: back)) →
    x.adapterId = k → (v.decode x).outcome = .ok inventory →
    y.adapterId ≠ k → (v'.decode y).outcome = .ok inventory' →
    inventory'.controller.pci.any (·.sameSlot c.pci.address) = true →
    Fallback v v' k c (enriched c.pci c.family inventory' (.resolve c.family devices inventory'))

/-- The records of one controller in two runs, of which one adapter fails in the second. -/
structure Contained (s : Scanner) (family : RaidFamily) (k : String) (b b' : ToolBehaviour)
    (c c' : RaidController) : Prop where
  /-- A record that was made without the adapter is the same. -/
  same : ¬c.EnrichedFrom family k → c' = c
  pci : c'.pci = c.pci
  devices : c'.devices.Perm c.devices
  fallback : c.EnrichedFrom family k →
    ∃ v ∈ s.vendors, v.family = family ∧ Fallback (v.behaving b) (v.behaving b') k c c'

theorem enrichedFrom_raidRecord :
    (raidRecord pci f devices vendor).EnrichedFrom family k ↔
      f = family ∧ ∃ inventory ∈ vendor, inventory.controller.adapterId = k := by
  cases vendor with
  | none =>
    constructor
    · intro h
      cases h.enriched
    · rintro ⟨-, _, h, -⟩
      cases h
  | some inventory =>
    constructor
    · intro h
      exact ⟨h.family, inventory, rfl, h.adapterId⟩
    · rintro ⟨hf, inventory', h, hk⟩
      obtain rfl := Option.some.inj h
      exact ⟨rfl, hf, hk⟩

/-- Whether tools are asked for a controller does not depend on what they answer. -/
theorem vendorInventory_withTools (s : Scanner) (pci : PciDevice) (family : RaidFamily) :
    (∀ b, ((s.withTools b).vendorInventory pci family).value = none) ∨
      ∃ v ∈ s.vendors, v.family = family ∧
        ∀ b, ((s.withTools b).vendorInventory pci family).value =
          ((v.behaving b).bind pci.address).outcome.toOption := by
  have hvalue (b : ToolBehaviour) : ((s.withTools b).vendorInventory pci family).value =
      if s.raidcliEnabled then
        ((s.vendors.map (·.behaving b)).find? (·.family == family)).bind fun v =>
          if v.tool.isAvailable then (v.bind pci.address).outcome.toOption else none
      else none := vendorInventory_value (s.withTools b) pci family
  simp only [hvalue, List.find?_map, Function.comp_def, Vendor.family_behaving]
  cases s.raidcliEnabled with
  | false => exact .inl fun _ => rfl
  | true =>
    cases hv : s.vendors.find? (·.family == family) with
    | none => exact .inl fun _ => rfl
    | some v =>
      simp only [if_true, Option.map_some, Option.bind_some, Vendor.isAvailable_behaving]
      by_cases havailable : v.tool.isAvailable
      · exact .inr ⟨v, List.mem_of_find?_eq_some hv, by simpa using List.find?_some hv,
          fun _ => if_pos havailable⟩
      · exact .inl fun _ => if_neg havailable

theorem contained_same (s : Scanner) (b b' : ToolBehaviour) (pci : PciDevice)
    (devices : List BlockDevice)
    (h : ∀ inventory ∈ vendor, f = family → inventory.controller.adapterId ≠ k) :
    Contained s family k b b' (raidRecord pci f devices vendor)
      (raidRecord pci f devices vendor) := by
  refine ⟨fun _ => rfl, rfl, .refl _, fun henriched => ?_⟩
  obtain ⟨hf, inventory, hmem, hk⟩ := enrichedFrom_raidRecord.mp henriched
  exact absurd hk (h inventory hmem hf)

/-- What is left of the record of a controller whose family has the failing adapter. -/
theorem contained_of_outage {s : Scanner} (hfails : AdapterFails f k b b') (hmem : v ∈ s.vendors)
    (hfamily : v.family = f) (hlisted : (v.behaving b).list.outcome = .ok listed)
    (h : Vendor.Outage f k pci.address
      (fun c => ((v.behaving b).decode c).outcome.toOption) listed i i')
    (devices : List BlockDevice) :
    Contained s f k b b' (raidRecord pci f devices i) (raidRecord pci f devices i') := by
  have henriched : ∀ inventory, inventory.controller.adapterId = k →
      (raidRecord pci f devices (some inventory)).EnrichedFrom f k :=
    fun inventory hk => enrichedFrom_raidRecord.mpr ⟨rfl, inventory, rfl, hk⟩
  have hdevices : ∀ vendor, devices.Perm (raidRecord pci f devices vendor).devices :=
    fun vendor => (raidRecord_devices_perm ..).symm
  cases h with
  | same hne => exact contained_same s b b' pci devices fun inventory hi _ => hne inventory hi
  | lost hk =>
    exact {
      same := fun h => absurd (henriched _ hk) h
      pci := rfl
      devices := (hdevices none).symm.trans (hdevices _)
      fallback := fun _ => ⟨v, hmem, hfamily, .kernelOnly (hdevices _)⟩ }
  | @later _ _ _ y _ _ _ hf hl hx hreadx hk hy hready haddress =>
    -- the slot behind the failed one is read as before
    have hready' := congrFun (Vendor.decode_adapterFails hfails hfamily) y
    rw [Vendor.without, if_neg hy, hready] at hready'
    subst hl
    exact {
      same := fun h => absurd (henriched _ hk) h
      pci := rfl
      devices := (hdevices _).symm.trans (hdevices _)
      fallback := fun _ => ⟨v, hmem, hfamily, .laterSlot (hdevices _) hf hlisted hx
        (Attempt.toOption_eq_some_iff.mp hreadx) hy (Attempt.toOption_eq_some_iff.mp hready')
        haddress⟩ }

theorem raidRecord_contained (s : Scanner) (h : AdapterFails family k b b') (pci : PciDevice)
    (f : RaidFamily) (devices : List BlockDevice) :
    Contained s family k b b'
      (raidRecord pci f devices ((s.withTools b).vendorInventory pci f).value)
      (raidRecord pci f devices ((s.withTools b').vendorInventory pci f).value) := by
  rcases vendorInventory_withTools s pci f with hnone | ⟨v, hmem, hfamily, hbind⟩
  · rw [hnone, hnone]
    exact contained_same s b b' pci devices (by simp)
  · rw [hbind, hbind]
    by_cases hf : f = family
    · subst hf
      rcases Vendor.bind_outage h hfamily pci.address with ⟨hi, hi'⟩ | ⟨listed, hlisted, hout⟩
      · rw [hi, hi']
        exact contained_same s b b' pci devices (by simp)
      · exact contained_of_outage h hmem hfamily hlisted hout devices
    · rw [Vendor.bind_of_family_ne h (hfamily ▸ hf)]
      exact contained_same s b b' pci devices fun _ _ he => absurd he hf

/-- When an adapter of a family fails, and all other commands of the tools are answered as before,
the run fails or succeeds as before; all direct controllers are the same, and so is every RAID
controller that was not enriched from that adapter. One that was is still there, with its block
devices. -/
theorem scan_contained (s : Scanner) (t : FileTree) (hostname hostname' : String)
    (generatedAt generatedAt' : Timestamp) (h : AdapterFails family k b b') :
    Report.Corresponds (Contained s family k b b')
      ((s.withTools b).scan t hostname generatedAt).outcome
      ((s.withTools b').scan t hostname' generatedAt').outcome :=
  scan_corresponds (s.withTools b) t s.raidcliEnabled _ hostname hostname' generatedAt generatedAt'
    fun pci f devices _ => raidRecord_contained s h pci f devices

/-- A Smart Array tool that lists two slots. The details of one that is not among those given come
too late. -/
def slotTools (details : List (String × String)) : ToolBehaviour
  | .smartArray, ["controller", "all", "show"] =>
    .ok "Smart HBA in Slot 0\nSmart HBA in Slot 1"
  | .smartArray, ["controller", slot, "show", "config", "detail"] =>
    match details.lookup slot with
    | some text => .ok text
    | none => .error (.commandTimeout ("hpssacli " ++ slot) (.ofSeconds 30))
  | family, _ => .error (.toolUnavailable family)

/-- The details of a slot whose controller is on bus 5. -/
def slotDetail (slot : String) : String × String :=
  ("slot=" ++ slot, "Smart HBA in Slot " ++ slot ++
    "\nPCI Address (Domain:Bus:Device.Function): 0:5:0.0")

/-- A Smart Array controller without block devices. -/
def slotTree : FileTree := .ofEntries [
  (["bus"], .directory), (["bus", "pci"], .directory), (["bus", "pci", "devices"], .directory),
  (["bus", "pci", "devices", "0:5:0.0"], .directory),
  (["bus", "pci", "devices", "0:5:0.0", "class"], .file "0x010400"),
  (["bus", "pci", "devices", "0:5:0.0", "driver"], .link "hpsa"),
  (["class"], .directory), (["class", "block"], .directory)]

/-- A scanner with an installed Smart Array tool. -/
def slotScanner : Scanner where
  root := "/"
  vendors := [{
    tool := {
      family := .smartArray
      program := some "/usr/sbin/hpssacli"
      runner := { run := fun _ _ => .error .yaml } }
    log := .fallback }]
  attributes := fun device => .ok (Kernel.driveAttributes slotTree device)
  log := .fallback

/-- The adapters that the controllers of a run were enriched from. -/
def slotAdapters (b : ToolBehaviour) : Option (List String) :=
  ((slotScanner.withTools b).scan slotTree "node" ⟨⟨2024, 3, 1⟩, 12, 0, 0, 0⟩).outcome.toOption.map
    fun r => r.raidControllers.map (·.adapterId)

/-- Two slots report the address of the controller, and the first one fails in the second run. -/
theorem scan_contained_slots :
    AdapterFails .smartArray "0" (slotTools [slotDetail "0", slotDetail "1"])
        (slotTools [slotDetail "1"]) ∧
      Report.Corresponds
        (Contained slotScanner .smartArray "0" (slotTools [slotDetail "0", slotDetail "1"])
          (slotTools [slotDetail "1"]))
        ((slotScanner.withTools (slotTools [slotDetail "0", slotDetail "1"])).scan slotTree "node"
          ⟨⟨2024, 3, 1⟩, 12, 0, 0, 0⟩).outcome
        ((slotScanner.withTools (slotTools [slotDetail "1"])).scan slotTree "node"
          ⟨⟨2024, 3, 1⟩, 12, 0, 0, 0⟩).outcome ∧
      slotAdapters (slotTools [slotDetail "0", slotDetail "1"]) = some ["0"] ∧
      slotAdapters (slotTools [slotDetail "1"]) = some ["1"] := by
  have hfails : AdapterFails .smartArray "0" (slotTools [slotDetail "0", slotDetail "1"])
      (slotTools [slotDetail "1"]) := by
    constructor
    · intro f args hargs
      unfold slotTools
      split
      · rfl
      · rename_i slot
        have hslot : (slot == "slot=0") = false := by
          rw [beq_eq_false_iff_ne]
          rintro rfl
          exact hargs rfl (by decide)
        simp [slotDetail, List.lookup_cons, hslot]
      · rfl
    · exact ⟨_, List.mem_singleton.mpr rfl, by exact .error⟩
  exact ⟨hfails, scan_contained slotScanner slotTree _ _ _ _ hfails, by decide +kernel,
    by decide +kernel⟩

end Scanner

end StorageInventory
