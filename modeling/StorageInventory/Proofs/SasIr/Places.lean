import StorageInventory.Proofs.Listing.Fields
import StorageInventory.Proofs.Vendor.Outcome

/-!
# The places of a SAS-IR inventory

Which disks the volumes of a SAS-IR inventory have. A volume names places, `enclosure:slot`, and a
disk belongs to the first kept volume that names its place; a disk of no such volume is exposed.
Main statements: what the blocks of volumes name (`volumes_namings`), what each volume gets from a
pool of disks (`assemble_value`), and that every inventory that is decoded has the disks of its
listing in their places (`decode_placed`).
-/

namespace StorageInventory.SasIr
open Listing (firsts)

/-! ## Volumes and the places they name -/

/-- Whether a field names the place of a member. -/
def isPlace (field : String × String) : Bool :=
  Text.beginsWith field.1 "PHY[" && Text.endsWith field.1 "] Enclosure#/Slot#"

/-- The places that the block of a volume names, in the order of its lines. -/
def namedPlaces (block : String × List String) : List String :=
  ((Listing.fields ":" block.2).filter isPlace).map (·.2)

/-- The identifier in the block of a volume, the last one there, if it can be read. -/
def wwid? (block : String × List String) : Option String :=
  ((Listing.fields ":" block.2).filter (·.1 == "Volume wwid")).getLast?.bind
    (Identifier.canonical? ·.2)

/-- The volumes of a listing that have an identifier: the key of each and the places it names. -/
def namings (lines : List String) : List (VolumeKey × List String) :=
  (Listing.blocks isVolumeHeader lines).filterMap fun block =>
    (wwid? block).map fun address => (.sasAddress address, namedPlaces block)

theorem not_isPlace_of_isSize (h : Text.beginsWith key "Size (in" = true) :
    isPlace (key, value) = false := by
  obtain ⟨rest, hkey⟩ := List.isPrefixOf_iff_prefix.mp h
  simp [isPlace, Text.beginsWith, ← hkey]

/-- A field adds to the places or sets the identifier, if it does either. -/
theorem setVolumeField_naming (v : NamedVolume) (field : String × String) :
    (setVolumeField v field).memberPlaces =
        v.memberPlaces ++ (if isPlace field then [field.2] else []) ∧
      (setVolumeField v field).wwid = (if field.1 == "Volume wwid" then field.2 else v.wwid) ∧
      (setVolumeField v field).record.members = v.record.members := by
  obtain ⟨key, value⟩ := field
  simp only [setVolumeField]
  split
  next h =>
    have hne : key ≠ "Volume wwid" := by rintro rfl; exact absurd h (by decide)
    simp [not_isPlace_of_isSize h, hne]
  next =>
    split
    · split <;> simp [isPlace, Text.beginsWith]
    · simp [isPlace, Text.beginsWith]
    · simp [isPlace, Text.beginsWith]
    · simp [isPlace, Text.beginsWith]
    next hne _ _ =>
      simp only [isPlace]
      split <;> simp_all

/-- The places of a volume are those of its fields, in order. -/
theorem foldl_memberPlaces (fields : List (String × String)) (v : NamedVolume) :
    (fields.foldl setVolumeField v).memberPlaces =
      v.memberPlaces ++ (fields.filter isPlace).map (·.2) := by
  induction fields generalizing v with
  | nil => simp
  | cons field fields ih =>
    rw [List.foldl_cons, ih, (setVolumeField_naming v field).1]
    cases h : isPlace field <;> simp [h]

/-- The identifier that is told last counts. -/
theorem foldl_wwid (fields : List (String × String)) (v : NamedVolume) :
    (fields.foldl setVolumeField v).wwid =
      ((fields.filter (·.1 == "Volume wwid")).getLast?.map (·.2)).getD v.wwid := by
  induction fields generalizing v with
  | nil => rfl
  | cons field fields ih =>
    rw [List.foldl_cons, ih, (setVolumeField_naming v field).2.1]
    cases h : field.1 == "Volume wwid" with
    | false => simp [h]
    | true =>
      rw [List.filter_cons_of_pos (by simpa using h), List.getLast?_cons]
      cases (fields.filter (·.1 == "Volume wwid")).getLast? <;> simp

theorem foldl_members (fields : List (String × String)) (v : NamedVolume) :
    (fields.foldl setVolumeField v).record.members = v.record.members :=
  Listing.foldl_keeps (fun v : NamedVolume => v.record.members)
    (fun v field _ => (setVolumeField_naming v field).2.2) v

/-- What the fields of a volume's block say, whatever its identifier is. -/
def unkeyed (block : String × List String) : NamedVolume :=
  (Listing.fields ":" block.2).foldl setVolumeField { record := { key := .sasAddress "" } }

theorem unkeyed_memberPlaces (block : String × List String) :
    (unkeyed block).memberPlaces = namedPlaces block :=
  foldl_memberPlaces ..

theorem canonical?_unkeyed (block : String × List String) :
    Identifier.canonical? (unkeyed block).wwid = wwid? block := by
  rw [unkeyed, foldl_wwid, wwid?]
  cases ((Listing.fields ":" block.2).filter (·.1 == "Volume wwid")).getLast? with
  | none => decide
  | some field => rw [Option.map_some, Option.getD_some, Option.bind_some]

theorem volume?_value (log : Logger) (block : String × List String) :
    (volume? log block).value = (wwid? block).map fun address =>
      { unkeyed block with record.key := .sasAddress address } := by
  rw [← canonical?_unkeyed]
  simp only [volume?, unkeyed]
  split
  next h => simp [h]
  next h => simp [h]

/-- A volume counts when it has an identifier, and is known by it. -/
theorem volumes_value (log : Logger) (lines : List String) :
    (volumes log lines).value = (Listing.blocks isVolumeHeader lines).filterMap fun block =>
      (wwid? block).map fun address =>
        { unkeyed block with record.key := .sasAddress address } := by
  cases lines with
  | nil => rfl
  | cons line lines => simp [volumes, Traced.value_mapM, List.filterMap_map, volume?_value]

/-- A listing gives the volumes of its blocks, each with its own key and the places it names. -/
theorem volumes_namings (log : Logger) (lines : List String) :
    (volumes log lines).value.map (fun v => (v.record.key, v.memberPlaces)) = namings lines := by
  rw [volumes_value, List.map_filterMap, namings]
  refine List.filterMap_congr fun block _ => ?_
  cases wwid? block <;> simp [unkeyed_memberPlaces]

theorem members_of_mem_volumes (h : v ∈ (volumes log lines).value) : v.record.members = [] := by
  rw [volumes_value] at h
  obtain ⟨block, _, hv⟩ := List.mem_filterMap.mp h
  obtain ⟨address, _, rfl⟩ := Option.map_eq_some_iff.mp hv
  exact foldl_members ..

/-! ## One volume -/

/-- The drives of a pool at the places, in the order in which the places are first named. -/
def picked (places : List String) (pool : List PhysicalDrive) : List PhysicalDrive :=
  (firsts id places).filterMap fun place => pool.find? (·.position == place)

theorem picked_cons (place : String) (places : List String) (pool : List PhysicalDrive) :
    picked (place :: places) pool =
      (pool.find? (·.position == place)).toList ++
        picked places (pool.filter (·.position ≠ place)) := by
  have hfind : ∀ other, (if other ≠ place then pool.find? (·.position == other) else none) =
      (pool.filter (·.position ≠ place)).find? (·.position == other) := by
    intro other
    rw [List.find?_filter]
    by_cases h : other = place
    · subst h
      rw [if_neg (not_not_intro rfl), eq_comm, List.find?_eq_none]
      simp
    · rw [if_pos h]
      congr 1
      funext d
      by_cases hd : d.position = other <;> simp [hd, h]
  have hrest : ((firsts id places).filter (id · ≠ id place)).filterMap
      (fun other => pool.find? (·.position == other)) =
        picked places (pool.filter (·.position ≠ place)) := by
    rw [List.filterMap_filter, picked]
    exact List.filterMap_congr fun other _ => by simpa using hfind other
  rw [picked, firsts, List.filterMap_cons, hrest]
  cases pool.find? (·.position == place) <;> rfl

/-- Of a pool of distinct places, the drives at the places are picked. -/
theorem mem_picked (hnd : (pool.map PhysicalDrive.position).Nodup) :
    d ∈ picked places pool ↔ d ∈ pool ∧ d.position ∈ places := by
  rw [picked, List.mem_filterMap]
  constructor
  · rintro ⟨place, hplace, hfind⟩
    have hd : d.position = place := by simpa using List.find?_some hfind
    exact ⟨List.mem_of_find?_eq_some hfind, hd ▸ (Listing.firsts_sublist id places).subset hplace⟩
  · rintro ⟨hd, hplace⟩
    obtain ⟨place, hmem, hplace⟩ := Listing.exists_mem_firsts id hplace
    obtain rfl : place = d.position := hplace
    exact ⟨d.position, hmem, Pool.find?_key hnd hd⟩

theorem picked_positions_sublist (places : List String) (pool : List PhysicalDrive) :
    ((picked places pool).map PhysicalDrive.position).Sublist (firsts id places) := by
  have hguard : ∀ place, (pool.find? (·.position == place)).map PhysicalDrive.position =
      Option.guard (fun p => (pool.find? (·.position == p)).isSome) place := by
    intro place
    cases h : pool.find? (·.position == place) with
    | none => simp [Option.guard, h]
    | some d =>
      have hd : d.position = place := by simpa using List.find?_some h
      simp [Option.guard, h, hd]
  rw [picked, List.map_filterMap, List.filterMap_congr fun place _ => hguard place,
    List.filterMap_eq_filter]
  exact List.filter_sublist

theorem picked_filter (places : List String) (pool : List PhysicalDrive) :
    picked places (pool.filter (·.position ∈ places)) = picked places pool := by
  refine List.filterMap_congr fun place hplace => ?_
  have hmem : place ∈ places := (Listing.firsts_sublist id places).subset hplace
  rw [List.find?_filter]
  congr 1
  funext d
  by_cases hd : d.position = place <;> simp [hd, hmem]

/-- From a pool of drives at distinct places, a volume gets those at its places. -/
theorem gather_value (log : Logger) (label : String) (places : List String)
    (hnd : (pool.map PhysicalDrive.position).Nodup) :
    (gather log label places pool).value =
      (picked places pool, pool.filter (·.position ∉ places)) := by
  induction places generalizing pool with
  | nil => simp [gather, picked, firsts]
  | cons place places ih =>
    have hnd' : ((pool.filter (·.position ≠ place)).map PhysicalDrive.position).Nodup :=
      hnd.sublist (List.filter_sublist.map _)
    have hrest := ih hnd'
    have hleft : pool.filter (·.position ∉ place :: places) =
        (pool.filter (·.position ≠ place)).filter (·.position ∉ places) := by
      rw [List.filter_filter]
      refine List.filter_congr fun d _ => ?_
      simp [Bool.and_comm]
    rw [picked_cons, hleft, gather, Pool.take?_key hnd]
    cases hfind : pool.find? (·.position == place) with
    | none =>
      have hpool : pool.filter (·.position ≠ place) = pool := by
        rw [List.filter_eq_self]
        simpa using hfind
      rw [hpool] at hrest ⊢
      simpa using hrest
    | some d =>
      simp only [Option.map_some, Traced.value_bind, Traced.value_pure, hrest]
      rfl

/-- The drives that are gathered and those that are left are the pool. -/
theorem gather_perm (log : Logger) (label : String) (places : List String)
    (pool : List PhysicalDrive) :
    ((gather log label places pool).value.1 ++ (gather log label places pool).value.2).Perm
      pool := by
  induction places generalizing pool with
  | nil => exact .refl _
  | cons place places ih =>
    rw [gather]
    cases h : Pool.take? (fun d => d.position == place) pool with
    | none => exact ih pool
    | some taken =>
      obtain ⟨d, rest⟩ := taken
      exact ((ih rest).cons d).trans (Pool.perm_of_take? h)

/-! ## All volumes -/

/-- The index of the first volume that names the place of a drive, among volumes that name these
places. -/
def claimant (named : List (List String)) (d : PhysicalDrive) : Option Nat :=
  named.findIdx? (d.position ∈ ·)

theorem claimant_cons :
    claimant (places :: named) d =
      if d.position ∈ places then some 0 else (claimant named d).map (· + 1) := by
  simp [claimant, List.findIdx?_cons]

/-- A drive is claimed by a volume that names its place. -/
theorem claimant_mem (h : claimant named d = some i) (hplaces : named[i]? = some places) :
    d.position ∈ places := by
  obtain ⟨hi, hd, _⟩ := List.findIdx?_eq_some_iff_getElem.mp h
  rw [List.getElem?_eq_getElem hi] at hplaces
  cases hplaces
  exact of_decide_eq_true hd

/-- The drives that a later volume claims, or none at all, are claimed so behind the first volume
too. -/
theorem filter_claimant_cons (places : List String) (named : List (List String))
    (pool : List PhysicalDrive) (i : Option Nat) :
    pool.filter (claimant (places :: named) · = i.map (· + 1)) =
      (pool.filter (·.position ∉ places)).filter (claimant named · = i) := by
  rw [List.filter_filter]
  refine List.filter_congr fun d _ => ?_
  by_cases hd : d.position ∈ places <;> cases i <;> simp [claimant_cons, hd]

/-- The record of a volume with the drives of the pool that it claims by its index. -/
def served (named : List (List String)) (pool : List PhysicalDrive) (i : Nat) (v : NamedVolume) :
    VolumeRecord :=
  { v.record with members := picked v.memberPlaces (pool.filter (claimant named · = some i)) }

theorem served_zero (v : NamedVolume) (named : List (List String)) (pool : List PhysicalDrive) :
    served (v.memberPlaces :: named) pool 0 v =
      { v.record with members := picked v.memberPlaces pool } := by
  have hclaimed : pool.filter (claimant (v.memberPlaces :: named) · = some 0) =
      pool.filter (·.position ∈ v.memberPlaces) := by
    refine List.filter_congr fun d _ => ?_
    by_cases hd : d.position ∈ v.memberPlaces <;> simp [claimant_cons, hd]
  rw [served, hclaimed, picked_filter]

theorem served_succ (places : List String) (named : List (List String))
    (pool : List PhysicalDrive) (i : Nat) :
    served (places :: named) pool (i + 1) = served named (pool.filter (·.position ∉ places)) i := by
  funext v
  rw [served, served, ← filter_claimant_cons places named pool (some i)]
  rfl

/-- From a pool of drives at distinct places, every volume gets those at its places that no volume
in front of it names; those that no volume names are left. -/
theorem assemble_value (log : Logger) (vs : List NamedVolume)
    (hnd : (pool.map PhysicalDrive.position).Nodup) :
    (assemble log vs pool).value =
      (vs.mapIdx (served (vs.map (·.memberPlaces)) pool),
        pool.filter (claimant (vs.map (·.memberPlaces)) · = none)) := by
  induction vs generalizing pool with
  | nil => simp [assemble, claimant]
  | cons v vs ih =>
    have hnd' : ((pool.filter (·.position ∉ v.memberPlaces)).map PhysicalDrive.position).Nodup :=
      hnd.sublist (List.filter_sublist.map _)
    have hrest := ih hnd'
    have hleft := filter_claimant_cons v.memberPlaces (vs.map (·.memberPlaces)) pool none
    simp only [assemble, Traced.value_bind, Traced.value_pure, gather_value log _ _ hnd, hrest,
      List.mapIdx_cons, List.map_cons, served_zero, served_succ, ← hleft, Option.map_none]

theorem exists_served (log : Logger) (vs : List NamedVolume)
    (hnd : (pool.map PhysicalDrive.position).Nodup)
    (hr : (assemble log vs pool).value.1[i]? = some r) :
    ∃ v, vs[i]? = some v ∧ served (vs.map (·.memberPlaces)) pool i v = r := by
  rw [assemble_value log vs hnd, List.getElem?_mapIdx] at hr
  exact Option.map_eq_some_iff.mp hr

/-- Volumes keep what the listing says of them; only members are added. -/
theorem assemble_records (log : Logger) (vs : List NamedVolume) (pool : List PhysicalDrive) :
    (assemble log vs pool).value.1.map ({ · with members := [] }) =
      vs.map fun v => { v.record with members := [] } := by
  induction vs generalizing pool with
  | nil => rfl
  | cons v vs ih => simp [assemble, ih]

/-- The members of all volumes and the drives that are left are the pool. -/
theorem assemble_perm (log : Logger) (vs : List NamedVolume) (pool : List PhysicalDrive) :
    ((assemble log vs pool).value.1.flatMap (·.members) ++ (assemble log vs pool).value.2).Perm
      pool := by
  induction vs generalizing pool with
  | nil => exact .refl _
  | cons v vs ih =>
    have hrest := ih (gather log v.record.label v.memberPlaces pool).value.2
    have hgather := gather_perm log v.record.label v.memberPlaces pool
    refine .trans ?_ ((hrest.append_left _).trans hgather)
    simp [assemble]

/-! ## Inventories -/

/-- The drives of a pool are in their places in an inventory, whose volumes are the kept ones with
these keys and places. -/
structure Placed (kept : List (VolumeKey × List String)) (pool : List PhysicalDrive)
    (v : Inventory) : Prop where
  keys : v.volumes.map (·.key) = kept.map (·.1)
  /-- Every drive is in one place. -/
  drives_perm : (v.volumes.flatMap (·.members) ++ v.exposed).Perm pool
  unconfigured : v.unconfigured = []
  /-- A drive is a member of the first volume that names its place, and of no other. -/
  mem_members : ∀ {i : Nat} {r d}, v.volumes[i]? = some r →
    (d ∈ r.members ↔ d ∈ pool ∧ claimant (kept.map (·.2)) d = some i)
  /-- Members come in the order of the places, a place that is named again not counted. -/
  members_order : ∀ {i : Nat} {r k}, v.volumes[i]? = some r → kept[i]? = some k →
    (r.members.map PhysicalDrive.position).Sublist (firsts id k.2)
  /-- The other drives are exposed, in their order. -/
  exposed : v.exposed = pool.filter (claimant (kept.map (·.2)) · = none)

/-- Every drive goes to the first volume that names its place, and the others are left. -/
theorem assemble_placed (log : Logger) (vs : List NamedVolume)
    (hnd : (pool.map PhysicalDrive.position).Nodup)
    (hvolumes : v.volumes = (assemble log vs pool).value.1)
    (hexposed : v.exposed = (assemble log vs pool).value.2) (hunconfigured : v.unconfigured = []) :
    Placed (vs.map fun v => (v.record.key, v.memberPlaces)) pool v where
  keys := by
    have h := congrArg (List.map (·.key)) (assemble_records log vs pool)
    rw [hvolumes]
    simpa [Function.comp_def] using h
  drives_perm := by
    rw [hvolumes, hexposed]
    exact assemble_perm log vs pool
  unconfigured := hunconfigured
  mem_members := by
    intro i r d hr
    obtain ⟨v, hv, rfl⟩ := exists_served log vs hnd (hvolumes ▸ hr)
    have hplaces : (vs.map (·.memberPlaces))[i]? = some v.memberPlaces := by simp [hv]
    simp only [List.map_map, Function.comp_def]
    rw [served, mem_picked (hnd.sublist (List.filter_sublist.map _)), List.mem_filter,
      decide_eq_true_iff]
    exact ⟨fun h => h.1, fun h => ⟨h, claimant_mem h.2 hplaces⟩⟩
  members_order := by
    intro i r k hr hk
    obtain ⟨v, hv, rfl⟩ := exists_served log vs hnd (hvolumes ▸ hr)
    rw [List.getElem?_map, hv] at hk
    cases hk
    exact picked_positions_sublist ..
  exposed := by simp [hexposed, assemble_value log vs hnd, Function.comp_def]

/-- The lines of a section of an output. -/
def outputLines (kind : Section) (output : String) : List String :=
  sectionLines kind (content (Text.lines output))

/-- The volumes of an output, the first one of each key. -/
def keptVolumes (log : Logger) (output : String) : List NamedVolume :=
  firsts (·.record.key) (volumes log (outputLines .volumes output)).value

/-- The disks of an output, the first one at each place. -/
def keptDisks (output : String) : List PhysicalDrive :=
  firsts PhysicalDrive.position (disks (outputLines .devices output))

theorem keptVolumes_namings (log : Logger) (output : String) :
    (keptVolumes log output).map (fun v => (v.record.key, v.memberPlaces)) =
      firsts Prod.fst (namings (outputLines .volumes output)) := by
  rw [← volumes_namings log, Listing.firsts_map]
  rfl

/-- The volumes of an inventory are assembled from the disks that are kept. -/
theorem decode_assembled (h : (decode tool log c).outcome = .ok v) :
    ∃ output, (tool.run [c.adapterId, "DISPLAY"]).outcome = .ok output ∧
      v.volumes = (assemble log (keptVolumes log output) (keptDisks output)).value.1 ∧
      v.exposed = (assemble log (keptVolumes log output) (keptDisks output)).value.2 ∧
      v.unconfigured = [] := by
  simp only [decode_outcome, Attempt.bind_eq_ok_iff] at h
  obtain ⟨output, hrun, h⟩ := h
  split at h
  · cases h
  obtain rfl := Except.ok.inj h
  refine ⟨output, hrun, ?_, ?_, rfl⟩ <;> simp only [keptVolumes, keptDisks, outputLines]

/-- A decoded inventory has the first volume of each key as the output gives it, and the first disk
of each place, all disks in their places. -/
theorem decode_placed {tool : Tool} {log : Logger} {c : ListedController} {v : Inventory}
    (h : (decode tool log c).outcome = .ok v) :
    ∃ output, (tool.run [c.adapterId, "DISPLAY"]).outcome = .ok output ∧
      v.volumes.map ({ · with members := [] }) = (keptVolumes log output).map (·.record) ∧
      (v.volumes.map (·.key)).Nodup ∧
      Placed (firsts Prod.fst (namings (outputLines .volumes output))) (keptDisks output) v := by
  obtain ⟨output, hrun, hvolumes, hexposed, hunconfigured⟩ := decode_assembled h
  have hpool : ((keptDisks output).map PhysicalDrive.position).Nodup :=
    Listing.firsts_keys_nodup ..
  have hplaced := assemble_placed log _ hpool hvolumes hexposed hunconfigured
  rw [keptVolumes_namings] at hplaced
  refine ⟨output, hrun, ?_, ?_, hplaced⟩
  · rw [hvolumes]
    refine (assemble_records ..).trans (List.map_congr_left fun v hv => ?_)
    have hmem := members_of_mem_volumes ((Listing.firsts_sublist _ _).subset hv)
    rw [← hmem]
  · rw [hplaced.keys]
    exact Listing.firsts_keys_nodup Prod.fst _

/-- Two volumes: the first names one of its places twice, and the second a place of the first. -/
def sharedLines : List String := [
  "IR Volume information",
  "IR volume 1", "Volume wwid : a", "PHY[0] Enclosure#/Slot# : 1:1",
  "PHY[1] Enclosure#/Slot# : 1:0", "PHY[2] Enclosure#/Slot# : 1:1",
  "IR volume 2", "Volume wwid : b", "PHY[0] Enclosure#/Slot# : 1:0",
  "Physical device information",
  "Device is a", "Enclosure #:1", "Slot #:0", "Size (in MB)/(in sectors):1/1",
  "Device is a", "Enclosure #:1", "Slot #:1", "Size (in MB)/(in sectors):1/1",
  "Device is a", "Enclosure #:1", "Slot #:2", "Size (in MB)/(in sectors):1/1"]

def sharedOutput : String := "\n".intercalate sharedLines

def sharedTool : Tool where
  family := .sasIr
  program := some "/usr/sbin/sas3ircu"
  runner := { run := fun _ _ => .ok sharedOutput }

def adapterZero : ListedController := { adapterId := "0" }

def sharedDisk (slot : String) : PhysicalDrive :=
  { family := .sasIr, enclosure := "1", slot, size := 1024 * 1024 }

def sharedInventory : Inventory where
  controller := { adapterId := "0" }
  volumes := [
    { key := .sasAddress "0xa", members := [sharedDisk "1", sharedDisk "0"] },
    { key := .sasAddress "0xb" }]
  exposed := [sharedDisk "2"]

theorem toList_sharedOutput :
    sharedOutput.toList = "\n".toList.intercalate (sharedLines.map String.toList) :=
  String.toList_intercalate

theorem lines_sharedOutput : Text.lines sharedOutput = sharedLines := by
  rw [Text.lines, toList_sharedOutput]
  decide +kernel

theorem isBlank_sharedOutput : Text.isBlank sharedOutput = false := by
  rw [Text.isBlank, toList_sharedOutput]
  decide +kernel

theorem decode_shared :
    (decode sharedTool .fallback adapterZero).outcome = .ok sharedInventory := by
  rw [decode_outcome, Tool.run_of_text rfl rfl isBlank_sharedOutput, Attempt.ok_bind]
  simp only [lines_sharedOutput]
  decide +kernel

/-- The place named twice counts once, the place of the first volume gives the second nothing, and
the disk at no named place is exposed. -/
theorem decode_placed_shared :
    (decode sharedTool .fallback adapterZero).outcome = .ok sharedInventory ∧
    ∃ output, (sharedTool.run [adapterZero.adapterId, "DISPLAY"]).outcome = .ok output ∧
      sharedInventory.volumes.map ({ · with members := [] }) =
        (keptVolumes .fallback output).map (·.record) ∧
      (sharedInventory.volumes.map (·.key)).Nodup ∧
      Placed (firsts Prod.fst (namings (outputLines .volumes output))) (keptDisks output)
        sharedInventory :=
  ⟨decode_shared, decode_placed decode_shared⟩

end StorageInventory.SasIr
