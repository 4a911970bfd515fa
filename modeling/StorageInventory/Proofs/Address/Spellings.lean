import StorageInventory.Address
import StorageInventory.Proofs.Identifier.Spellings
import StorageInventory.Proofs.Number.Digits

/-!
# Spellings of a bus address

The digits of a number may have zeros in front and letters of either case (`Numeral.IsHex`). An
address whose fields are written so, between two colons and a point, is read back whatever the
number of digits (`PciAddress.Spells.ofText?_eq`), and its own text is such a spelling
(`PciAddress.spells_text`).
-/

namespace StorageInventory

/-! ## Hexadecimal numbers -/

namespace Numeral

/-- A number in hexadecimal, with any zeros in front and letters of either case. -/
def IsHex (n : Nat) (cs : List Char) : Prop :=
  ∃ width, cs.map Char.toLower = padStart width '0' (Nat.toDigits 16 n)

theorem digit?_toLower (c : Char) : digit? 16 c.toLower = digit? 16 c := by
  rcases Identifier.toLower_cases c with hc | ⟨hlow, hhigh⟩
  · rw [hc]
  · have hall : ∀ n < 91, 65 ≤ n →
        digit? 16 (Char.ofNat n).toLower = digit? 16 (Char.ofNat n) := by decide
    have hc := hall c.toNat hhigh hlow
    rwa [Char.ofNat_toNat] at hc

theorem continue?_map_toLower (value : Nat) (cs : List Char) :
    continue? 16 value (cs.map Char.toLower) = continue? 16 value cs := by
  induction cs generalizing value with
  | nil => rfl
  | cons c cs ih => simp only [List.map_cons, continue?, digit?_toLower, ih]

theorem isHexDigit_of_continue? (h : continue? 16 value cs = some n) :
    ∀ c ∈ cs, Identifier.isHexDigit c = true := by
  induction cs generalizing value with
  | nil => exact fun c hc => absurd hc List.not_mem_nil
  | cons c cs ih =>
    obtain ⟨d, hd, h⟩ := Option.bind_eq_some_iff.mp h
    rw [List.forall_mem_cons]
    exact ⟨Option.isSome_iff_exists.mpr ⟨d, hd⟩, ih h⟩

theorem IsHex.ne_nil (h : IsHex n cs) : cs ≠ [] := by
  obtain ⟨width, hcs⟩ := h
  rintro rfl
  exact padStart_ne_nil 16 width n hcs.symm

theorem IsHex.continue?_eq (h : IsHex n cs) : continue? 16 0 cs = some n := by
  obtain ⟨width, hcs⟩ := h
  rw [← continue?_map_toLower, hcs, padStart, continue?_zeros (by decide) (by decide),
    continue?_toDigits (by decide) (by decide)]

theorem IsHex.isHexDigit (h : IsHex n cs) : ∀ c ∈ cs, Identifier.isHexDigit c = true :=
  isHexDigit_of_continue? h.continue?_eq

/-- The marks between the fields of an address are no digits, so a field ends in front of one. -/
theorem IsHex.notMem (h : IsHex n cs) (hc : Identifier.isHexDigit c = false) : c ∉ cs := by
  intro hmem
  rw [h.isHexDigit c hmem] at hc
  cases hc

theorem IsHex.notBlank (h : IsHex n cs) : ∀ c ∈ cs, Chars.isBlank c = false :=
  fun c hc => Identifier.isBlank_of_isHexDigit (h.isHexDigit c hc)

theorem IsHex.map_toLower (h : IsHex n cs) : IsHex n (cs.map Char.toLower) := by
  have hsmall : (cs.map Char.toLower).map Char.toLower = cs.map Char.toLower := by
    rw [List.map_map]
    refine List.map_congr_left fun c hc => ?_
    exact Identifier.toLower_toLower_of_isHexDigit (h.isHexDigit c hc)
  obtain ⟨width, hcs⟩ := h
  exact ⟨width, hsmall.trans hcs⟩

/-- A number that is printed with leading zeros is a spelling of it, whatever its width. -/
theorem isHex_hex (width n : Nat) : IsHex n (hex width n).toList := by
  have hsmall : ∀ d < 16, d.digitChar.toLower = d.digitChar := by decide
  have hpadded : ∀ c ∈ padStart width '0' (Nat.toDigits 16 n), c.toLower = c := by
    intro c hc
    rcases List.mem_append.mp hc with hc | hc
    · rw [List.eq_of_mem_replicate hc]
      rfl
    · obtain ⟨d, hd, rfl⟩ := exists_of_mem_toDigits (by decide) hc
      exact hsmall d hd
  refine ⟨width, ?_⟩
  rw [hex, String.toList_ofList, List.map_congr_left hpadded, List.map_id']

/-- A field of an address takes every spelling of a number of 32 bits. -/
theorem IsHex.hex32?_eq {n : UInt32} (h : IsHex n.toNat cs) :
    hex32? (String.ofList cs) = some n := by
  have hread : digits? 16 cs = some n.toNat := by
    rw [digits?, List.isEmpty_eq_false_iff.mpr h.ne_nil]
    exact h.continue?_eq
  rw [hex32?, natural?_of_digits? hread n.toNat_lt, Option.map_some, UInt32.ofNat_toNat]

end Numeral

open Numeral (IsHex)

/-! ## Addresses -/

namespace PciAddress
variable {a : PciAddress} {domain bus device function : List Char}

/-- The fields of an address in hexadecimal. -/
structure Shown (a : PciAddress) (domain bus device function : List Char) : Prop where
  domain : IsHex a.domain.toNat domain
  bus : IsHex a.bus.toNat bus
  device : IsHex a.device.toNat device
  function : IsHex a.function.toNat function

/-- Two colons and a point between the fields of an address, and blanks around them. -/
inductive Spells (s : String) (a : PciAddress) : Prop
  | intro (front domain bus device function back : List Char) :
    s.toList = front ++ (domain ++ ':' :: (bus ++ ':' :: (device ++ '.' :: function))) ++ back →
    (∀ c ∈ front, Chars.isBlank c = true) → Shown a domain bus device function →
    (∀ c ∈ back, Chars.isBlank c = true) → Spells s a

/-- No blank stands around the fields of an address, so that trimming changes nothing. -/
theorem Shown.trimmed (h : Shown a domain bus device function) :
    Chars.Trimmed (domain ++ ':' :: (bus ++ ':' :: (device ++ '.' :: function))) := by
  have ends : ∀ {n cs}, IsHex n cs → Chars.Trimmed cs :=
    fun h => Chars.trimmed_of_notBlank h.notBlank
  exact (ends h.domain).append_cons ((ends h.bus).append_cons
    ((ends h.device).append_cons (ends h.function) rfl) rfl) rfl

/-- The four fields are cut where the marks of the spelling stand. -/
theorem Spells.fields?_eq (h : Spells s a) :
    ∃ domain bus device function, Shown a domain bus device function ∧
      fields? s = some (String.ofList domain, String.ofList bus, String.ofList device,
        String.ofList function) := by
  cases h with
  | intro front domain bus device function back hchars hfront h hback =>
  refine ⟨domain, bus, device, function, h, ?_⟩
  have hdomain (rest : List Char) : Text.cut (String.ofList (domain ++ ':' :: rest)) ":" =
      some (String.ofList domain, String.ofList rest) := Text.cut_ofList (h.domain.notMem rfl) rest
  have hbus (rest : List Char) : Text.cut (String.ofList (bus ++ ':' :: rest)) ":" =
      some (String.ofList bus, String.ofList rest) := Text.cut_ofList (h.bus.notMem rfl) rest
  have hdevice (rest : List Char) : Text.cut (String.ofList (device ++ '.' :: rest)) "." =
      some (String.ofList device, String.ofList rest) := Text.cut_ofList (h.device.notMem rfl) rest
  rw [fields?, Text.trim, hchars, Chars.trim_of_blanks hfront hback, h.trimmed.trim_eq, hdomain]
  simp only [Option.bind_eq_bind, Option.bind_some, hbus, hdevice, Option.pure_def]

/-- Every spelling of an address is read as it. -/
theorem Spells.ofText?_eq (h : Spells s a) : ofText? s = some a := by
  obtain ⟨domain, bus, device, function, h, hfields⟩ := h.fields?_eq
  simp [ofText?, hfields, h.domain.hex32?_eq, h.bus.hex32?_eq, h.device.hex32?_eq,
    h.function.hex32?_eq]

theorem Spells.parse_eq (h : Spells s a) : parse s = .ok a := by rw [parse, h.ofText?_eq]

theorem shown_hex (a : PciAddress) (w x y z : Nat) :
    Shown a (Numeral.hex w a.domain.toNat).toList (Numeral.hex x a.bus.toNat).toList
      (Numeral.hex y a.device.toNat).toList (Numeral.hex z a.function.toNat).toList :=
  ⟨Numeral.isHex_hex .., Numeral.isHex_hex .., Numeral.isHex_hex .., Numeral.isHex_hex ..⟩

/-- The printed form of an address is one of its spellings. -/
theorem spells_text (a : PciAddress) : Spells a.text a := by
  refine .intro [] _ _ _ _ [] ?_ (by simp) (a.shown_hex 4 2 2 1) (by simp)
  simp [text]

end PciAddress

end StorageInventory
