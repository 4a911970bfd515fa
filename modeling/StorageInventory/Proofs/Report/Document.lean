import StorageInventory.Proofs.Json.Records
import StorageInventory.Proofs.Timestamp.Zulu
import StorageInventory.Report.Document

/-!
# Reports that are printed and read again

A report is read from its document as the same report (`Report.ofDocument_document`), whatever its
strings hold, however large its numbers are and whichever of its parts are absent.
-/

namespace StorageInventory

namespace Json
variable {write : α → Json} {read : Json → Option α} {members : List (String × Json)}

theorem nonempty_keys (name : String) (write : α → Json) (xs : List α) :
    ((nonempty name write xs).map (·.1)).Sublist [name] := by
  cases xs with
  | nil => exact List.nil_sublist _
  | cons x xs => exact List.Sublist.refl _

theorem lookup_nonempty_of_ne (h : name ≠ other) (write : α → Json) (xs : List α) :
    (nonempty other write xs).lookup name = none := by
  cases xs with
  | nil => rfl
  | cons x xs =>
    rw [nonempty, List.lookup_cons, beq_eq_false_iff_ne.mpr h]
    · rfl
    · exact fun h => nomatch h

namespace RoundTrip
variable (h : RoundTrip write read)
include h

theorem nonempty_plain (name : String) (xs : List α) :
    ∀ member ∈ nonempty name write xs, Plain member.2 := by
  cases xs with
  | nil => exact fun _ hmember => nomatch hmember
  | cons x xs => exact List.forall_mem_singleton.mpr (h.list.plain (x :: xs))

/-- A list that is left out when it is empty. -/
theorem orEmpty_of_lookup (xs : List α)
    (hlookup : members.lookup name = (nonempty name write xs).lookup name) :
    orEmpty members name (list? read) = some xs := by
  cases xs with
  | nil =>
    rw [orEmpty, hlookup]
    rfl
  | cons x xs =>
    have hfound : (nonempty name write (x :: xs)).lookup name =
        some (.arr ((x :: xs).map write)) := by
      rw [nonempty, List.lookup_cons, beq_self_eq_true]
      exact fun h => nomatch h
    rw [orEmpty, hlookup, hfound]
    exact h.list.reads (x :: xs)

end RoundTrip

end Json

open Json

namespace Report

theorem toJson_plain (r : Report) : Plain r.toJson := by
  refine .obj ?_
  simp only [List.forall_mem_append]
  refine ⟨⟨by simp, ?_⟩, ?_⟩
  · exact RaidController.roundTrip.nonempty_plain _ _
  · exact DirectController.roundTrip.nonempty_plain _ _

theorem ofJson?_toJson {r : Report}
    (htime : Timestamp.ofText? r.generatedAt.zuluText = some r.generatedAt) :
    ofJson? r.toJson = some r := by
  obtain ⟨m, hm⟩ : ∃ m, r.toJson = .obj m := ⟨_, rfl⟩
  have hmembers := Json.obj.inj hm
  have hkeys : (m.map (·.1)).Nodup := by
    have hsublist := ((List.Sublist.refl ["hostname", "generated_at"]).append
      (nonempty_keys "raid_controllers" RaidController.toJson r.raidControllers)).append
      (nonempty_keys "direct_controllers" DirectController.toJson r.directControllers)
    rw [← hmembers, List.map_append, List.map_append]
    exact hsublist.nodup (by decide)
  have hscalar : ∀ name j, [("hostname", .str r.hostname),
      ("generated_at", .str r.generatedAt.zuluText)].lookup name = some j →
        m.lookup name = some j := by
    intro name j h
    rw [← hmembers, List.lookup_append, List.lookup_append, h]
    rfl
  have hhostname : need m "hostname" str? = some r.hostname := by
    rw [need, hscalar "hostname" (.str r.hostname) (by rfl)]
    rfl
  have hgenerated : need m "generated_at" (fun t => t.str?.bind Timestamp.ofText?) =
      some r.generatedAt := by
    rw [need, hscalar "generated_at" (.str r.generatedAt.zuluText) (by rfl), Option.bind_some,
      str?, Option.bind_some, htime]
  have hraid : orEmpty m "raid_controllers" (list? RaidController.ofJson?) =
      some r.raidControllers := by
    apply RaidController.roundTrip.orEmpty_of_lookup
    rw [← hmembers, List.lookup_append, List.lookup_append,
      lookup_nonempty_of_ne (by decide) DirectController.toJson, Option.or_none]
    exact Option.none_or
  have hdirect : orEmpty m "direct_controllers" (list? DirectController.ofJson?) =
      some r.directControllers := by
    apply DirectController.roundTrip.orEmpty_of_lookup
    rw [← hmembers, List.lookup_append, List.lookup_append,
      lookup_nonempty_of_ne (by decide) RaidController.toJson]
    exact Option.none_or
  simp only [ofJson?, hm, record?_obj hkeys, some_bind, hhostname, hgenerated, hraid,
    hdirect]
  rfl

/-- A report whose time of day is one that the calendar and the clock have, in a year of four
digits, is read from its document as the same report, and so is printed alike once more. -/
theorem ofDocument_document {r : Report} (htime : r.generatedAt.isValid = true)
    (hyear : 0 ≤ r.generatedAt.date.year ∧ r.generatedAt.date.year ≤ 9999) :
    ofDocument r.document = .ok r ∧ (ofDocument r.document).map document = .ok r.document := by
  have hread : ofDocument r.document = .ok r := by
    rw [ofDocument, document, parse?_pretty r.toJson_plain, Option.bind_some,
      ofJson?_toJson (Timestamp.ofText?_zuluText htime hyear)]
  exact ⟨hread, by rw [hread]; rfl⟩

/-- A report with absent keys, a volume without data, numbers at their bounds, an empty list of
direct controllers and a name that needs every kind of escape. -/
def bounds : Report where
  hostname := "\"\\/\t\n\x01\u00E9\u4E16"
  generatedAt := ⟨⟨2024, 2, 29⟩, 23, 59, 59, 1000⟩
  raidControllers := [{
    pci := { numaNode := some 0xFFFFFFFF }
    volumes := [{
      kernel := { sectors := 0xFFFFFFFFFFFFFFFF, wwn := some "" }
      members := [{
        family := .sasIr
        temperature := some (-0x8000)
        errorRecords := [{ raw := -0x8000000000000000 }]
        ids := { deviceId := some 0xFFFF } }] }] }]

theorem ofDocument_document_bounds :
    ofDocument bounds.document = .ok bounds ∧
      (ofDocument bounds.document).map document = .ok bounds.document :=
  ofDocument_document (by decide) (by decide)

end Report

end StorageInventory
