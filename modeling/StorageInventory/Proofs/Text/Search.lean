import Mathlib.Data.List.Infix
import StorageInventory.Text.Search

/-!
# What is found in a text

Where a pattern stands in a text that is put together from its parts. A pattern stands somewhere
when it is a part of the text (`Text.holds_iff`), and a character that it does not have parts what
stands in front of the character from what stands behind (`Chars.infix_append_cons`).
-/

namespace StorageInventory

namespace Chars
variable {c : Char} {p : Char → Bool} {pattern : List Char}

theorem prefix_append_cons (hc : c ∉ pattern) (before after : List Char) :
    pattern <+: before ++ c :: after ↔ pattern <+: before := by
  constructor
  · intro h
    rcases List.prefix_or_prefix_of_prefix h (List.prefix_append before _) with h' | ⟨rest, rfl⟩
    · exact h'
    · rw [List.prefix_append_right_inj] at h
      cases rest with
      | nil => rw [List.append_nil]
      | cons d rest =>
        obtain rfl := (List.cons_prefix_cons.mp h).1
        exact absurd (List.mem_append_right _ List.mem_cons_self) hc
  · exact fun h => h.trans (List.prefix_append before _)

theorem infix_append_cons (hc : c ∉ pattern) (before after : List Char) :
    pattern <:+: before ++ c :: after ↔ pattern <:+: before ∨ pattern <:+: after := by
  induction before with
  | nil =>
    have hfront := prefix_append_cons hc [] after
    rw [List.nil_append] at hfront ⊢
    rw [List.infix_cons_iff, hfront, List.prefix_nil, List.infix_nil]
  | cons b before ih =>
    have hfront := prefix_append_cons hc (b :: before) after
    rw [List.cons_append] at hfront ⊢
    rw [List.infix_cons_iff, List.infix_cons_iff, hfront, ih, or_assoc]

/-- Characters that a pattern does not have part a text in the same way. -/
theorem infix_append_separator {separator : List Char} (hne : separator ≠ [])
    (h : ∀ c ∈ separator, c ∉ pattern) (hpattern : pattern ≠ []) (before after : List Char) :
    pattern <:+: before ++ (separator ++ after) ↔ pattern <:+: before ∨ pattern <:+: after := by
  induction separator generalizing before with
  | nil => exact absurd rfl hne
  | cons c separator ih =>
    rw [List.forall_mem_cons] at h
    rw [List.cons_append, infix_append_cons h.1]
    cases separator with
    | nil => rw [List.nil_append]
    | cons d separator =>
      have hrest := ih (List.cons_ne_nil d separator) h.2 []
      rw [List.nil_append, List.infix_nil, or_iff_right hpattern] at hrest
      rw [hrest]

theorem cut_isSome_iff {cs : List Char} : (cut pattern cs).isSome = true ↔ pattern <:+: cs := by
  induction cs with
  | nil => simp [cut]
  | cons b cs ih =>
    rw [List.infix_cons_iff, cut]
    split
    next rest hrest =>
      have hfront := List.isPrefixOf?_eq_some_iff_append_eq.mp hrest
      exact iff_of_true rfl (.inl ⟨rest, hfront⟩)
    next hnone =>
      have hfront : ¬ pattern <+: b :: cs := by
        rintro ⟨rest, hrest⟩
        rw [List.isPrefixOf?_eq_some_iff_append_eq.mpr hrest] at hnone
        cases hnone
      rw [Option.isSome_map, ih, or_iff_right hfront]

/-- A text is cut at a character when no other that it could be cut at stands behind it. -/
theorem cutLastWhere_append_cons (hc : p c = true) {after : List Char}
    (hafter : ∀ x ∈ after, p x = false) (before : List Char) :
    cutLastWhere p (before ++ c :: after) = some (before, after) := by
  induction before with
  | nil =>
    have hnone : cutLastWhere p after = none := by
      induction after with
      | nil => rfl
      | cons x after ih =>
        rw [List.forall_mem_cons] at hafter
        simp [cutLastWhere, ih hafter.2, hafter.1]
    simp [cutLastWhere, hnone, hc]
  | cons b before ih => simp [cutLastWhere, ih]

end Chars

namespace Text

theorem holds_iff {s pattern : String} :
    holds s pattern = true ↔ pattern.toList <:+: s.toList :=
  Chars.cut_isSome_iff

end Text

end StorageInventory
