import StorageInventory.Json.Record
import StorageInventory.Proofs.Json.Values

/-!
# Records that are written and read again

The reader of each record gives back every record that was written (`Json.RoundTrip`).
-/

namespace StorageInventory

namespace Json
variable {write : α → Json} {read : Json → Option α} {members : List (String × Json)}

/-- A reader that gives back what was written, and writes nothing that printing would lose. -/
structure RoundTrip (write : α → Json) (read : Json → Option α) : Prop where
  plain : ∀ a, Plain (write a)
  reads : ∀ a, read (write a) = some a

attribute [simp] Plain.null Plain.bool Plain.int Plain.str

@[simp] theorem Plain.nat (n : Nat) : Plain (.nat n) := .int n

/-! ## Scalars -/

theorem str_roundTrip : RoundTrip .str str? := ⟨.str, fun _ => rfl⟩

theorem bool_roundTrip : RoundTrip .bool bool? := ⟨.bool, fun _ => rfl⟩

theorem nat?_nat {bound : Nat} (h : n < bound) : nat? bound (.nat n) = some n := by
  have hrange : 0 ≤ (n : Int) ∧ (n : Int) < bound := ⟨Int.natCast_nonneg n, Int.ofNat_lt.mpr h⟩
  rw [nat, nat?, if_pos hrange, Int.toNat_natCast]

theorem int?_int {bound : Nat} (h : -(bound : Int) ≤ n) (h' : n < bound) :
    int? bound (.int n) = some n := if_pos ⟨h, h'⟩

theorem word8_roundTrip : RoundTrip (fun n : UInt8 => .nat n.toNat) word8? :=
  ⟨fun _ => .int _,
    fun n => by rw [word8?, nat?_nat n.toNat_lt, Option.map_some, UInt8.ofNat_toNat]⟩

theorem word16_roundTrip : RoundTrip (fun n : UInt16 => .nat n.toNat) word16? :=
  ⟨fun _ => .int _,
    fun n => by rw [word16?, nat?_nat n.toNat_lt, Option.map_some, UInt16.ofNat_toNat]⟩

theorem word32_roundTrip : RoundTrip (fun n : UInt32 => .nat n.toNat) word32? :=
  ⟨fun _ => .int _,
    fun n => by rw [word32?, nat?_nat n.toNat_lt, Option.map_some, UInt32.ofNat_toNat]⟩

theorem word64_roundTrip : RoundTrip (fun n : UInt64 => .nat n.toNat) word64? :=
  ⟨fun _ => .int _,
    fun n => by rw [word64?, nat?_nat n.toNat_lt, Option.map_some, UInt64.ofNat_toNat]⟩

theorem int16_roundTrip : RoundTrip (fun n : Int16 => .int n.toInt) int16? :=
  ⟨fun _ => .int _, fun n => by
    rw [int16?, int?_int n.le_toInt n.toInt_lt, Option.map_some, Int16.ofInt_toInt]⟩

theorem int64_roundTrip : RoundTrip (fun n : Int64 => .int n.toInt) int64? :=
  ⟨fun _ => .int _, fun n => by
    rw [int64?, int?_int n.le_toInt n.toInt_lt, Option.map_some, Int64.ofInt_toInt]⟩

/-! ## Lists and members -/

/-- What is read back item by item is read back as an array. -/
theorem RoundTrip.list (h : RoundTrip write read) :
    RoundTrip (fun xs => .arr (xs.map write)) (list? read) where
  plain xs := .arr fun item hitem => by
    obtain ⟨a, -, rfl⟩ := List.mem_map.mp hitem
    exact h.plain a
  reads xs := by
    rw [list?]
    induction xs with
    | nil => rfl
    | cons x xs ih => simp [List.mapM_cons, h.reads, ih]

/-- An object is a record of any members as long as no name stands in it twice. -/
theorem record?_obj (h : (members.map (·.1)).Nodup) (names : List String) (required : Nat) :
    record? names required (.obj members) = some members := by
  have honce : (names.all fun name => (members.filter (·.1 == name)).length ≤ 1) = true := by
    rw [List.all_eq_true]
    intro name _
    have hcount := List.nodup_iff_count.mp h name
    rw [List.count_eq_countP, List.countP_map, List.countP_eq_length_filter] at hcount
    exact decide_eq_true hcount
  exact if_pos honce

/-- Members are found by their names, so those in front of one can be passed over. -/
theorem need_cons (other name : String) : need ((other, j) :: members) name read =
    if name = other then read j else need members name read := by
  rw [need, List.lookup_cons]
  split
  · rename_i hname
    rw [if_pos (eq_of_beq hname)]
    rfl
  · rename_i hname
    rw [if_neg (ne_of_beq_false hname)]
    rfl

theorem optional_cons_of_ne (h : name ≠ other) :
    optional ((other, j) :: members) name read = optional members name read := by
  rw [optional, optional, List.lookup_cons, beq_eq_false_iff_ne.mpr h]

/-- A value in front of a reader. Opening the bind of a reader instead would set off the reader. -/
theorem some_bind (a : α) (f : α → Option β) : (some a >>= f) = f a := by
  simp only [Option.bind_eq_bind, Option.bind_some]

namespace RoundTrip
variable (h : RoundTrip write read) (hnull : ∀ a, write a ≠ .null)
include h

theorem ofOption_plain (o : Option α) : Plain (ofOption write o) := by
  cases o with
  | none => exact .null
  | some a => exact h.plain a

include hnull

/-- A member that is there is read back as present, though it could have been absent. -/
theorem optional_of_lookup (a : α) (hlookup : members.lookup name = some (write a)) :
    optional members name read = some (some a) := by
  rw [optional, hlookup]
  split
  · rename_i heq
    cases heq
  · rename_i heq
    exact absurd (Option.some.inj heq) (hnull a)
  · rename_i heq
    rw [← Option.some.inj heq, h.reads]
    rfl

/-- An absent value is written as null, which is read as absent again. -/
theorem optional_cons (o : Option α) (hname : name = other) :
    optional ((other, ofOption write o) :: members) name read = some o := by
  subst hname
  cases o with
  | none =>
    rw [optional, List.lookup_cons, beq_self_eq_true]
    rfl
  | some a =>
    refine h.optional_of_lookup hnull a ?_
    rw [List.lookup_cons, beq_self_eq_true]
    rfl

/-- A field that is left out when there is nothing to write. -/
theorem optional_of_map (o : Option α) (hlookup : members.lookup name = o.map write) :
    optional members name read = some o := by
  cases o with
  | none =>
    rw [optional, hlookup]
    rfl
  | some a => exact h.optional_of_lookup hnull a hlookup

end RoundTrip

/-- A member that is left out when it is absent is found only when it is there. -/
theorem lookup_present (other name : String) (o : Option α) :
    (present other write o).lookup name = if name = other then o.map write else none := by
  cases o with
  | none => exact (ite_self none).symm
  | some a =>
    rw [present, List.lookup_cons]
    split
    · rename_i hname
      rw [if_pos (eq_of_beq hname)]
      rfl
    · rename_i hname
      rw [if_neg (ne_of_beq_false hname)]
      rfl

/-- A member that is left out when it is absent adds its name at most once. -/
theorem present_keys (name : String) (write : α → Json) (o : Option α) :
    ((present name write o).map (·.1)).Sublist [name] := by
  cases o with
  | none => exact List.nil_sublist _
  | some a => exact List.Sublist.refl _

theorem RoundTrip.present_plain (h : RoundTrip write read) (name : String) (o : Option α) :
    ∀ member ∈ present name write o, Plain member.2 := by
  cases o with
  | none => exact fun _ hmember => (nomatch hmember)
  | some a => exact List.forall_mem_singleton.mpr (h.plain a)

end Json

open Json

/-! ## Addresses and names -/

theorem PciAddress.roundTrip : RoundTrip PciAddress.toJson PciAddress.ofJson? where
  plain a := .obj (by simp)
  reads a := by
    rw [PciAddress.toJson, PciAddress.ofJson?, record?_obj (by simp)]
    simp only [need_cons, String.reduceEq, ↓reduceIte, word32_roundTrip.reads, some_bind]
    rfl

theorem ScsiAddress.roundTrip : RoundTrip ScsiAddress.toJson ScsiAddress.ofJson? where
  plain a := .obj (by simp)
  reads a := by
    rw [ScsiAddress.toJson, ScsiAddress.ofJson?, record?_obj (by simp)]
    simp only [need_cons, String.reduceEq, ↓reduceIte, word16_roundTrip.reads, some_bind]
    rfl

theorem ArrayPosition.roundTrip : RoundTrip ArrayPosition.toJson ArrayPosition.ofJson? where
  plain p := .obj (by simp)
  reads p := by
    rw [ArrayPosition.toJson, ArrayPosition.ofJson?, record?_obj (by simp)]
    simp only [need_cons, String.reduceEq, ↓reduceIte, word16_roundTrip.reads, some_bind]
    rfl

theorem RaidFamily.roundTrip : RoundTrip RaidFamily.toJson RaidFamily.ofJson? where
  plain f := .str f.key
  reads f := by cases f <;> rfl

theorem RaidLevel.roundTrip : RoundTrip RaidLevel.toJson RaidLevel.ofJson? where
  plain level := .str level.name
  reads level := by cases level <;> rfl

theorem Battery.roundTrip : RoundTrip Battery.toJson Battery.ofJson? where
  plain b := .str b.name
  reads b := by cases b <;> rfl

theorem DirectKind.roundTrip : RoundTrip DirectKind.toJson DirectKind.ofJson? where
  plain k := .str k.key
  reads k := by cases k <;> rfl

/-! ## Drives and volumes -/

theorem SmartRecord.roundTrip : RoundTrip SmartRecord.toJson SmartRecord.ofJson? where
  plain r := .obj (by simp)
  reads r := by
    rw [SmartRecord.toJson, SmartRecord.ofJson?, record?_obj (by simp)]
    simp only [need_cons, String.reduceEq, ↓reduceIte, str_roundTrip.reads, word8_roundTrip.reads,
      int64_roundTrip.reads, some_bind]
    rfl

theorem BlockDevice.roundTrip : RoundTrip BlockDevice.toJson BlockDevice.ofJson? where
  plain d := .obj (by simp [ScsiAddress.roundTrip.plain, str_roundTrip.ofOption_plain])
  reads d := by
    rw [BlockDevice.toJson, BlockDevice.ofJson?, record?_obj (by simp)]
    simp only [need_cons, String.reduceEq, ↓reduceIte, optional_cons_of_ne, ne_eq, not_false_iff,
      str_roundTrip.reads, word64_roundTrip.reads, word32_roundTrip.reads,
      ScsiAddress.roundTrip.reads, str_roundTrip.optional_cons nofun, some_bind]
    rfl

/-- The members of an identity are left out when they are absent, each on its own. -/
theorem DriveIdentity.roundTrip : RoundTrip DriveIdentity.toJson DriveIdentity.ofJson? where
  plain ids := by
    refine .obj ?_
    simp only [List.forall_mem_append]
    exact ⟨⟨⟨⟨str_roundTrip.present_plain _ _, str_roundTrip.present_plain _ _⟩,
      ArrayPosition.roundTrip.present_plain _ _⟩, str_roundTrip.present_plain _ _⟩,
      word16_roundTrip.present_plain _ _⟩
  reads ids := by
    obtain ⟨m, hm⟩ : ∃ m, ids.toJson = .obj m := ⟨_, rfl⟩
    have hmembers := Json.obj.inj hm
    have hkeys : (m.map (·.1)).Nodup := by
      have hsublist := ((((present_keys "wwn" .str ids.wwn).append
        (present_keys "sas_address" .str ids.sasAddress)).append
        (present_keys "position" ArrayPosition.toJson ids.position)).append
        (present_keys "inquiry" .str ids.inquiry)).append
        (present_keys "device_id" (fun n => .nat n.toNat) ids.deviceId)
      simp only [← List.map_append, hmembers] at hsublist
      exact hsublist.nodup (by decide)
    have hlookup : ∀ name, m.lookup name =
        if name = "wwn" then ids.wwn.map .str
        else if name = "sas_address" then ids.sasAddress.map .str
        else if name = "position" then ids.position.map ArrayPosition.toJson
        else if name = "inquiry" then ids.inquiry.map .str
        else if name = "device_id" then ids.deviceId.map fun n => .nat n.toNat
        else none := by
      intro name
      simp only [← hmembers, List.lookup_append, lookup_present]
      grind
    have hwwn : optional m "wwn" str? = some ids.wwn :=
      str_roundTrip.optional_of_map nofun _ (hlookup _)
    have hsas : optional m "sas_address" str? = some ids.sasAddress :=
      str_roundTrip.optional_of_map nofun _ (hlookup _)
    have hposition : optional m "position" ArrayPosition.ofJson? = some ids.position :=
      ArrayPosition.roundTrip.optional_of_map nofun _ (hlookup _)
    have hinquiry : optional m "inquiry" str? = some ids.inquiry :=
      str_roundTrip.optional_of_map nofun _ (hlookup _)
    have hdevice : optional m "device_id" word16? = some ids.deviceId :=
      word16_roundTrip.optional_of_map nofun _ (hlookup _)
    simp only [DriveIdentity.ofJson?, hm, record?_obj hkeys, some_bind, hwwn, hsas, hposition,
      hinquiry, hdevice]
    rfl

theorem PhysicalDrive.roundTrip : RoundTrip PhysicalDrive.toJson PhysicalDrive.ofJson? where
  plain d := .obj (by simp [RaidFamily.roundTrip.plain, int16_roundTrip.ofOption_plain,
    SmartRecord.roundTrip.list.plain, DriveIdentity.roundTrip.plain])
  reads d := by
    rw [PhysicalDrive.toJson, PhysicalDrive.ofJson?, record?_obj (by simp)]
    simp only [need_cons, String.reduceEq, ↓reduceIte, optional_cons_of_ne, ne_eq, not_false_iff,
      RaidFamily.roundTrip.reads, str_roundTrip.reads, word64_roundTrip.reads,
      word32_roundTrip.reads, bool_roundTrip.reads, int16_roundTrip.optional_cons nofun,
      SmartRecord.roundTrip.list.reads, DriveIdentity.roundTrip.reads, some_bind]
    rfl

theorem VolumeData.roundTrip : RoundTrip VolumeData.toJson VolumeData.ofJson? where
  plain v := .obj (by simp [RaidLevel.roundTrip.plain])
  reads v := by
    rw [VolumeData.toJson, VolumeData.ofJson?, record?_obj (by simp)]
    simp only [need_cons, String.reduceEq, ↓reduceIte, RaidLevel.roundTrip.reads,
      str_roundTrip.reads, word64_roundTrip.reads, bool_roundTrip.reads, some_bind]
    rfl

/-- A volume without data of a vendor is read back without it. -/
theorem Volume.roundTrip : RoundTrip Volume.toJson Volume.ofJson? where
  plain v := .obj (by simp [BlockDevice.roundTrip.plain, VolumeData.roundTrip.ofOption_plain,
    PhysicalDrive.roundTrip.list.plain])
  reads v := by
    rw [Volume.toJson, Volume.ofJson?, record?_obj (by simp)]
    simp only [need_cons, String.reduceEq, ↓reduceIte, optional_cons_of_ne, ne_eq, not_false_iff,
      BlockDevice.roundTrip.reads, VolumeData.roundTrip.optional_cons nofun,
      PhysicalDrive.roundTrip.list.reads, some_bind]
    rfl

theorem ExposedDrive.roundTrip : RoundTrip ExposedDrive.toJson ExposedDrive.ofJson? where
  plain d := .obj (by simp [BlockDevice.roundTrip.plain, PhysicalDrive.roundTrip.plain])
  reads d := by
    rw [ExposedDrive.toJson, ExposedDrive.ofJson?, record?_obj (by simp)]
    simp only [need_cons, String.reduceEq, ↓reduceIte, BlockDevice.roundTrip.reads,
      PhysicalDrive.roundTrip.reads, some_bind]
    rfl

theorem DirectDrive.roundTrip : RoundTrip DirectDrive.toJson DirectDrive.ofJson? where
  plain d := .obj (by simp [BlockDevice.roundTrip.plain, int16_roundTrip.ofOption_plain,
    SmartRecord.roundTrip.list.plain])
  reads d := by
    rw [DirectDrive.toJson, DirectDrive.ofJson?, record?_obj (by simp)]
    simp only [need_cons, String.reduceEq, ↓reduceIte, optional_cons_of_ne, ne_eq, not_false_iff,
      BlockDevice.roundTrip.reads, str_roundTrip.reads, word32_roundTrip.reads,
      int16_roundTrip.optional_cons nofun, SmartRecord.roundTrip.list.reads, some_bind]
    rfl

/-! ## Controllers -/

theorem PciDevice.roundTrip : RoundTrip PciDevice.toJson PciDevice.ofJson? where
  plain d := .obj (by simp [strings, PciAddress.roundTrip.plain,
    word32_roundTrip.ofOption_plain, str_roundTrip.list.plain])
  reads d := by
    rw [PciDevice.toJson, PciDevice.ofJson?, record?_obj (by simp)]
    simp only [need_cons, String.reduceEq, ↓reduceIte, optional_cons_of_ne, ne_eq, not_false_iff,
      PciAddress.roundTrip.reads, str_roundTrip.reads, word16_roundTrip.reads,
      word32_roundTrip.reads, word32_roundTrip.optional_cons nofun, strings,
      str_roundTrip.list.reads, some_bind]
    rfl

theorem RaidController.roundTrip : RoundTrip RaidController.toJson RaidController.ofJson? where
  plain c := .obj (by simp [PciDevice.roundTrip.plain, RaidFamily.roundTrip.plain,
    Battery.roundTrip.plain, Volume.roundTrip.list.plain, ExposedDrive.roundTrip.list.plain,
    PhysicalDrive.roundTrip.list.plain])
  reads c := by
    rw [RaidController.toJson, RaidController.ofJson?, record?_obj (by simp)]
    simp only [need_cons, String.reduceEq, ↓reduceIte, PciDevice.roundTrip.reads,
      RaidFamily.roundTrip.reads, str_roundTrip.reads, Battery.roundTrip.reads,
      bool_roundTrip.reads, Volume.roundTrip.list.reads, ExposedDrive.roundTrip.list.reads,
      PhysicalDrive.roundTrip.list.reads, some_bind]
    rfl

theorem DirectController.roundTrip :
    RoundTrip DirectController.toJson DirectController.ofJson? where
  plain c := .obj (by simp [PciDevice.roundTrip.plain, DirectKind.roundTrip.plain,
    DirectDrive.roundTrip.list.plain])
  reads c := by
    rw [DirectController.toJson, DirectController.ofJson?, record?_obj (by simp)]
    simp only [need_cons, String.reduceEq, ↓reduceIte, PciDevice.roundTrip.reads,
      DirectKind.roundTrip.reads, DirectDrive.roundTrip.list.reads, some_bind]
    rfl

end StorageInventory
