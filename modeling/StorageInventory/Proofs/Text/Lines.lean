import Mathlib.Data.List.DropRight
import StorageInventory.Text.Search

/-!
# Lines, keys and values of a text

What the cuts of a text give when the text is put together from its parts: the pieces between
separators, the lines of lines that are ended (`Text.lines_join`), the lines that hold more than
blanks (`Chars.contentLines`), the key and the value of a line in front of a mark and behind it
(`Text.keyValue?_of_cut`), and texts without blanks at their ends (`Chars.Trimmed`).
-/

namespace StorageInventory

namespace Chars
variable {p : Char → Bool}

/-! ## Pieces between separators -/

theorem pieces_ne_nil (cs : List Char) : pieces p cs ≠ [] := by
  induction cs with
  | nil => exact List.cons_ne_nil _ _
  | cons c cs ih =>
    unfold pieces
    split
    · exact List.cons_ne_nil _ _
    · split <;> exact List.cons_ne_nil _ _

/-- A separator ends a piece, so both sides of it are cut on their own. -/
theorem pieces_append_cons (cs : List Char) (hc : p c = true) (ds : List Char) :
    pieces p (cs ++ c :: ds) = pieces p cs ++ pieces p ds := by
  induction cs with
  | nil => simp [pieces, hc]
  | cons b cs ih =>
    by_cases hb : p b
    · simp [pieces, hb, ih]
    · obtain ⟨w, ws, hw⟩ := List.exists_cons_of_ne_nil (pieces_ne_nil (p := p) cs)
      simp [pieces, hb, ih, hw]

theorem pieces_eq_singleton (h : ∀ c ∈ cs, p c = false) : pieces p cs = [cs] := by
  induction cs with
  | nil => rfl
  | cons c cs ih =>
    rw [List.forall_mem_cons] at h
    simp [pieces, h.1, ih h.2]

/-- Pieces without a separator are found again between separators. -/
theorem pieces_intercalate (hc : p c = true) (hne : ws ≠ []) (h : ∀ w ∈ ws, ∀ x ∈ w, p x = false) :
    pieces p ([c].intercalate ws) = ws := by
  induction ws with
  | nil => exact absurd rfl hne
  | cons w ws ih =>
    rw [List.forall_mem_cons] at h
    cases ws with
    | nil => rw [List.intercalate_singleton, pieces_eq_singleton h.1]
    | cons v ws =>
      rw [List.intercalate_cons_cons, List.append_assoc, List.singleton_append,
        pieces_append_cons w hc, pieces_eq_singleton h.1, ih (List.cons_ne_nil v ws) h.2,
        List.singleton_append]

theorem not_of_mem_pieces (hw : w ∈ pieces p cs) : ∀ c ∈ w, p c = false := by
  induction cs generalizing w with
  | nil =>
    obtain rfl := List.mem_singleton.mp hw
    exact fun c hc => absurd hc List.not_mem_nil
  | cons b cs ih =>
    unfold pieces at hw
    split at hw
    · rcases List.mem_cons.mp hw with rfl | hw
      · exact fun c hc => absurd hc List.not_mem_nil
      · exact ih hw
    · rename_i hb
      have hb : p b = false := by simpa using hb
      split at hw
      · obtain rfl := List.mem_singleton.mp hw
        simpa using hb
      · rename_i v vs hvs
        rcases List.mem_cons.mp hw with rfl | hw
        · rw [List.forall_mem_cons]
          exact ⟨hb, ih (hvs ▸ List.mem_cons_self)⟩
        · exact ih (hvs ▸ List.mem_cons_of_mem _ hw)

/-- A blank ends a word, so both sides of it are read on their own. -/
theorem words_append_cons (cs : List Char) (hc : isBlank c = true) (ds : List Char) :
    words (cs ++ c :: ds) = words cs ++ words ds := by
  rw [words, pieces_append_cons cs hc, List.filter_append]
  rfl

theorem words_of_notBlank (hne : cs ≠ []) (h : ∀ c ∈ cs, isBlank c = false) : words cs = [cs] := by
  rw [words, pieces_eq_singleton h]
  simp [hne]

/-! ## Blanks at the ends -/

theorem isBlank_of_isDigit (h : c.isDigit = true) : isBlank c = false := by
  have hall : ∀ n < 58, 48 ≤ n → blankCodes.contains n = false := by decide
  rw [Char.isDigit, Bool.and_eq_true, decide_eq_true_eq, decide_eq_true_eq] at h
  exact hall c.toNat (Nat.lt_succ_of_le h.2) h.1

theorem notBlank_of_any {cs : List Char} (h : cs.any isBlank = false) :
    ∀ c ∈ cs, isBlank c = false := by
  simpa using h

/-- No blank stands at either end. -/
structure Trimmed (cs : List Char) : Prop where
  head : ∀ c ∈ cs.head?, isBlank c = false
  last : ∀ c ∈ cs.getLast?, isBlank c = false

theorem trimmed_of_notBlank (h : ∀ c ∈ cs, isBlank c = false) : Trimmed cs where
  head _ hc := h _ (List.mem_of_mem_head? hc)
  last _ hc := h _ (List.mem_of_getLast? hc)

theorem dropEndWhile_eq_rdropWhile (p : Char → Bool) (cs : List Char) :
    dropEndWhile p cs = cs.rdropWhile p := rfl

/-- A text without blanks at its ends is what trimming leaves of it. -/
theorem Trimmed.trim_eq (h : Trimmed cs) : trim cs = cs := by
  have hfront : cs.dropWhile isBlank = cs := by
    cases cs with
    | nil => rfl
    | cons c cs => rw [List.dropWhile_cons_of_neg (by simp [h.head c rfl])]
  rw [trim, stripWhere, hfront, dropEndWhile_eq_rdropWhile, List.rdropWhile_eq_self_iff]
  intro hne
  rw [h.last _ (List.getLast?_eq_some_getLast hne)]
  exact Bool.false_ne_true

/-- Only the ends of a text count for being trimmed. -/
theorem Trimmed.append (ha : Trimmed a) (hb : Trimmed b) (hane : a ≠ []) (hbne : b ≠ [])
    (cs : List Char) : Trimmed (a ++ cs ++ b) where
  head c hc := by
    refine ha.head c ?_
    rwa [List.append_assoc, List.head?_append_of_ne_nil _ hane] at hc
  last c hc := by
    refine hb.last c ?_
    rwa [List.getLast?_append_of_ne_nil _ hbne] at hc

theorem Trimmed.append_cons (ha : Trimmed a) (hb : Trimmed b) (hc : isBlank c = false) :
    Trimmed (a ++ c :: b) where
  head d hd := by
    cases a with
    | nil => exact Option.some.inj hd ▸ hc
    | cons x a => exact ha.head d hd
  last d hd := by
    rw [List.getLast?_append_of_ne_nil _ (List.cons_ne_nil c b)] at hd
    cases b with
    | nil => exact Option.some.inj hd ▸ hc
    | cons x b => exact hb.last d hd

theorem trimmed_trim (cs : List Char) : Trimmed (trim cs) where
  head := by
    intro c hc
    obtain ⟨rest, hrest⟩ := List.rdropWhile_prefix isBlank (cs.dropWhile isBlank)
    have hfront := List.head?_dropWhile_not isBlank cs
    have hhead : (cs.dropWhile isBlank).head? = some c := by
      rw [← hrest, List.head?_append]
      exact Option.or_eq_some_iff.mpr (.inl hc)
    rw [hhead] at hfront
    exact hfront
  last := by
    intro c hc
    have hne : trim cs ≠ [] := List.ne_nil_of_mem (List.mem_of_getLast? hc)
    have hlast := List.rdropWhile_last_not isBlank (cs.dropWhile isBlank) hne
    obtain rfl : (trim cs).getLast hne = c := by
      rw [Option.mem_def, List.getLast?_eq_some_getLast hne] at hc
      exact Option.some.inj hc
    exact Bool.not_eq_true _ |>.mp hlast

theorem trimmed_of_trim_eq (h : trim cs = cs) : Trimmed cs := h ▸ trimmed_trim cs

theorem trim_trim (cs : List Char) : trim (trim cs) = trim cs := (trimmed_trim cs).trim_eq

theorem trim_cons_of_blank (h : isBlank c = true) (cs : List Char) : trim (c :: cs) = trim cs := by
  rw [trim, stripWhere, List.dropWhile_cons_of_pos h]
  rfl

theorem trim_concat_of_blank (cs : List Char) (h : isBlank c = true) :
    trim (cs ++ [c]) = trim cs := by
  rw [trim, stripWhere, List.dropWhile_append, trim, stripWhere]
  split
  next hall =>
    rw [List.isEmpty_iff.mp hall, List.dropWhile_cons_of_pos h]
    rfl
  next => exact List.rdropWhile_concat_pos isBlank _ c h

theorem trim_append_spaces (cs : List Char) (n : Nat) :
    trim (cs ++ List.replicate n ' ') = trim cs := by
  induction n with
  | zero => rw [List.replicate_zero, List.append_nil]
  | succ n ih => rw [List.replicate_succ', ← List.append_assoc, trim_concat_of_blank _ rfl, ih]

/-- What does not change with a blank at either end does not change with blanks around a text. -/
theorem apply_of_blanks {f : List Char → β}
    (hcons : ∀ {c}, isBlank c = true → ∀ cs, f (c :: cs) = f cs)
    (hconcat : ∀ {c} cs, isBlank c = true → f (cs ++ [c]) = f cs)
    (hfront : ∀ c ∈ front, isBlank c = true) (hback : ∀ c ∈ back, isBlank c = true)
    (cs : List Char) : f (front ++ cs ++ back) = f cs := by
  have hend : ∀ cs, f (cs ++ back) = f cs := by
    intro cs
    induction back using List.reverseRecOn with
    | nil => rw [List.append_nil]
    | append_singleton back c ih =>
      rw [List.forall_mem_append] at hback
      rw [← List.append_assoc, hconcat _ (hback.2 c (List.mem_singleton_self c)), ih hback.1]
  rw [hend]
  induction front with
  | nil => rfl
  | cons c front ih =>
    rw [List.forall_mem_cons] at hfront
    rw [List.cons_append, hcons hfront.1, ih hfront.2]

/-- Blanks around a text are taken off with those at its ends. -/
theorem trim_of_blanks (hfront : ∀ c ∈ front, isBlank c = true)
    (hback : ∀ c ∈ back, isBlank c = true) (cs : List Char) :
    trim (front ++ cs ++ back) = trim cs :=
  apply_of_blanks trim_cons_of_blank trim_concat_of_blank hfront hback cs

/-- What is trimmed stands between blanks. -/
theorem exists_trim (cs : List Char) :
    ∃ front back, (∀ c ∈ front, isBlank c = true) ∧ (∀ c ∈ back, isBlank c = true) ∧
      cs = front ++ trim cs ++ back := by
  refine ⟨cs.takeWhile isBlank, (cs.dropWhile isBlank).rtakeWhile isBlank, ?_, ?_, ?_⟩
  · exact fun c hc => List.mem_takeWhile_imp hc
  · exact fun c hc => List.mem_rtakeWhile_imp hc
  · rw [trim, stripWhere, dropEndWhile_eq_rdropWhile, List.append_assoc,
      List.rdropWhile_append_rtakeWhile, List.takeWhile_append_dropWhile]

theorem trim_eq_nil_iff : trim cs = [] ↔ ∀ c ∈ cs, isBlank c = true := by
  obtain ⟨front, back, hfront, hback, hcs⟩ := exists_trim cs
  constructor
  · intro hnil
    rw [hcs, hnil, List.append_nil]
    exact List.forall_mem_append.mpr ⟨hfront, hback⟩
  · intro hall
    cases htrim : trim cs with
    | nil => rfl
    | cons c rest =>
      have hhead := (trimmed_trim cs).head c (by rw [htrim]; rfl)
      have hc : c ∈ cs := by
        rw [hcs, htrim]
        simp
      rw [hall c hc] at hhead
      cases hhead

/-- A return at the end of a line is a blank, and trimmed away. -/
theorem trim_dropReturn (cs : List Char) : trim (dropReturn cs) = trim cs := by
  unfold dropReturn
  split
  next h =>
    obtain ⟨ds, rfl⟩ := List.getLast?_eq_some_iff.mp h
    rw [List.dropLast_concat, trim_concat_of_blank ds rfl]
  next => rfl

/-! ## Lines -/

/-- The first line ends at the first line feed. -/
theorem lines_cons (h : '\n' ∉ l) (rest : List Char) :
    lines (l ++ '\n' :: rest) = dropReturn l :: lines rest := by
  have hl : ∀ c ∈ l, (c == '\n') = false := by
    intro c hc
    rw [beq_eq_false_iff_ne]
    rintro rfl
    exact h hc
  obtain ⟨w, ws, hws⟩ := List.exists_cons_of_ne_nil (pieces_ne_nil (p := (· == '\n')) rest)
  rw [lines, lines, pieces_append_cons l rfl rest, pieces_eq_singleton hl, hws]
  rfl

/-- A character that is no separator belongs to the first piece. -/
theorem pieces_cons_of_not (hc : p c = false) (cs : List Char) :
    ∃ first rest, pieces p cs = first :: rest ∧ pieces p (c :: cs) = (c :: first) :: rest := by
  obtain ⟨first, rest, hcs⟩ := List.exists_cons_of_ne_nil (pieces_ne_nil (p := p) cs)
  exact ⟨first, rest, hcs, by simp [pieces, hc, hcs]⟩

theorem pieces_concat_of_not (hc : p c = false) (cs : List Char) :
    ∃ front last, pieces p cs = front ++ [last] ∧
      pieces p (cs ++ [c]) = front ++ [last ++ [c]] := by
  induction cs with
  | nil => exact ⟨[], [], rfl, by simp [pieces, hc]⟩
  | cons b cs ih =>
    obtain ⟨front, last, hcs, hconcat⟩ := ih
    by_cases hb : p b
    · exact ⟨[] :: front, last, by simp [pieces, hb, hcs], by simp [pieces, hb, hconcat]⟩
    · cases front with
      | nil => exact ⟨[], b :: last, by simp [pieces, hb, hcs], by simp [pieces, hb, hconcat]⟩
      | cons first front =>
        exact ⟨(b :: first) :: front, last, by simp [pieces, hb, hcs],
          by simp [pieces, hb, hconcat]⟩

/-- The lines that hold more than blanks, without the blanks around them. -/
def contentLines (cs : List Char) : List (List Char) :=
  ((lines cs).map trim).filter (!·.isEmpty)

/-- Lines that are trimmed and not empty are found by line feeds alone, whatever ends the text. -/
theorem contentLines_eq_pieces (cs : List Char) :
    contentLines cs = ((pieces (· == '\n') cs).map trim).filter (!·.isEmpty) := by
  rw [contentLines, lines]
  generalize pieces (· == '\n') cs = ls
  fun_induction ended ls with
  | case1 => rfl
  | case2 last hlast =>
    obtain rfl := List.isEmpty_iff.mp hlast
    rfl
  | case3 last => rfl
  | case4 line rest _ ih =>
    simp only [List.map_cons, trim_dropReturn, List.filter_cons, ih]

/-- A line feed ends a line, so both sides of it are read on their own. -/
theorem contentLines_append_cons (cs ds : List Char) :
    contentLines (cs ++ '\n' :: ds) = contentLines cs ++ contentLines ds := by
  rw [contentLines_eq_pieces, contentLines_eq_pieces, contentLines_eq_pieces,
    pieces_append_cons cs rfl ds, List.map_append, List.filter_append]

theorem contentLines_cons_of_blank (hc : isBlank c = true) (cs : List Char) :
    contentLines (c :: cs) = contentLines cs := by
  by_cases hend : c = '\n'
  · subst hend
    exact contentLines_append_cons [] cs
  · obtain ⟨first, rest, hcs, hcons⟩ :=
      pieces_cons_of_not (p := (· == '\n')) (beq_eq_false_iff_ne.mpr hend) cs
    simp only [contentLines_eq_pieces, hcs, hcons, List.map_cons, trim_cons_of_blank hc]

theorem contentLines_concat_of_blank (cs : List Char) (hc : isBlank c = true) :
    contentLines (cs ++ [c]) = contentLines cs := by
  by_cases hend : c = '\n'
  · subst hend
    rw [contentLines_append_cons]
    exact List.append_nil _
  · obtain ⟨front, last, hcs, hconcat⟩ :=
      pieces_concat_of_not (p := (· == '\n')) (beq_eq_false_iff_ne.mpr hend) cs
    simp only [contentLines_eq_pieces, hcs, hconcat, List.map_append, List.map_cons, List.map_nil,
      trim_concat_of_blank _ hc]

/-- Blanks around a text are on none of these lines. -/
theorem contentLines_trim (cs : List Char) : contentLines (trim cs) = contentLines cs := by
  obtain ⟨front, back, hfront, hback, hcs⟩ := exists_trim cs
  conv_rhs => rw [hcs]
  rw [apply_of_blanks contentLines_cons_of_blank contentLines_concat_of_blank hfront hback]

theorem contentLines_of_blank (h : ∀ c ∈ cs, isBlank c = true) : contentLines cs = [] := by
  rw [← contentLines_trim, trim_eq_nil_iff.mpr h]
  rfl

theorem contentLines_singleton (h : '\n' ∉ l) (hne : trim l ≠ []) : contentLines l = [trim l] := by
  have hl : ∀ c ∈ l, (c == '\n') = false :=
    fun c hc => beq_eq_false_iff_ne.mpr fun heq => h (heq ▸ hc)
  rw [contentLines_eq_pieces, pieces_eq_singleton hl]
  simp [hne]

/-- A reader that leaves blanks out of account reads the lines that hold more. -/
theorem filterMap_lines {f : List Char → Option β} (htrim : ∀ l, f (trim l) = f l)
    (hnil : f [] = none) (cs : List Char) :
    (lines cs).filterMap f = (contentLines cs).filterMap f := by
  rw [contentLines, List.filterMap_filter, List.filterMap_map]
  refine List.filterMap_congr fun l _ => ?_
  cases hl : trim l with
  | nil => simp [hl, ← htrim l, hnil]
  | cons c cs => simp [hl, ← htrim l]

/-! ## A mark of one character -/

/-- A text is cut at the first of its separators. -/
theorem cut_singleton {c : Char} (h : c ∉ before) (after : List Char) :
    cut [c] (before ++ c :: after) = some (before, after) := by
  induction before with
  | nil => simp [cut, List.isPrefixOf?]
  | cons b before ih =>
    rw [List.mem_cons, not_or] at h
    have hb : (c == b) = false := beq_eq_false_iff_ne.mpr h.1
    simp [cut, List.isPrefixOf?, hb, ih h.2]

theorem cut_singleton_isSome {c : Char} {cs : List Char} :
    (cut [c] cs).isSome = true ↔ c ∈ cs := by
  induction cs with
  | nil => simp [cut]
  | cons b cs ih =>
    by_cases hb : c = b
    · simp [cut, List.isPrefixOf?, hb]
    · have hne : (c == b) = false := beq_eq_false_iff_ne.mpr hb
      simp [cut, List.isPrefixOf?, hne, hb, ih]

end Chars

namespace Text

theorem toList_trim (s : String) : (trim s).toList = Chars.trim s.toList := String.toList_ofList

theorem trim_ofList (cs : List Char) : trim (String.ofList cs) = String.ofList (Chars.trim cs) := by
  rw [trim, String.toList_ofList]

theorem trim_trim (s : String) : trim (trim s) = trim s := by
  rw [trim, toList_trim, Chars.trim_trim, trim]

theorem isBlank_iff {s : String} : isBlank s = true ↔ trim s = "" := by
  rw [isBlank, List.all_eq_true, trim, String.ofList_eq_empty_iff, Chars.trim_eq_nil_iff]

theorem holds_singleton {s : String} {c : Char} :
    holds s (String.singleton c) = true ↔ c ∈ s.toList := by
  rw [holds, String.toList_singleton, Chars.holds, Chars.cut_singleton_isSome]

theorem beginsWith_iff {s start : String} :
    beginsWith s start = true ↔ start.toList <+: s.toList :=
  List.isPrefixOf_iff_prefix

theorem endsWith_iff {s finish : String} : endsWith s finish = true ↔ finish.toList <:+ s.toList :=
  List.isSuffixOf_iff_suffix

/-- What stands behind the beginning of a text. -/
theorem after?_eq_some_iff {s start rest : String} :
    after? s start = some rest ↔ s = start ++ rest := by
  rw [after?, Option.map_eq_some_iff]
  simp only [List.isPrefixOf?_eq_some_iff_append_eq]
  constructor
  · rintro ⟨cs, hcs, rfl⟩
    rw [← String.toList_inj, String.toList_append, String.toList_ofList, hcs]
  · rintro rfl
    exact ⟨rest.toList, String.toList_append.symm, String.ofList_toList⟩

theorem cut_ofList {c : Char} (h : c ∉ before) (after : List Char) :
    cut (String.ofList (before ++ c :: after)) (String.singleton c) =
      some (String.ofList before, String.ofList after) := by
  rw [cut, String.toList_ofList, String.toList_singleton, Chars.cut_singleton h]
  rfl

/-- A line is split at the first mark. -/
theorem keyValue?_of_cut {line : String} {c : Char} (h : (trim line).toList = before ++ c :: after)
    (hc : c ∉ before) :
    keyValue? line (String.singleton c) =
      some (String.ofList (Chars.trim before), String.ofList (Chars.trim after)) := by
  have hempty : (trim line).isEmpty = false := by
    rw [String.isEmpty_eq_false_iff, Ne, ← String.toList_eq_nil_iff, h]
    exact List.append_ne_nil_of_right_ne_nil _ (List.cons_ne_nil _ _)
  have hcut := cut_ofList hc after
  rw [← h, String.ofList_toList] at hcut
  rw [keyValue?, hempty, hcut]
  simp [trim]

/-- Lines that are ended are read back, whatever text follows them. -/
theorem lines_ended {ls : List String} (h : ∀ l ∈ ls, '\n' ∉ l.toList) (rest : String) :
    lines (String.join (ls.map (· ++ "\n")) ++ rest) =
      ls.map (fun l => String.ofList (Chars.dropReturn l.toList)) ++ lines rest := by
  induction ls with
  | nil => simp
  | cons l ls ih =>
    rw [List.forall_mem_cons] at h
    have hlist : (String.join ((l :: ls).map (· ++ "\n")) ++ rest).toList =
        l.toList ++ '\n' :: (String.join (ls.map (· ++ "\n")) ++ rest).toList := by
      simp
    rw [lines, hlist, Chars.lines_cons h.1, List.map_cons, List.map_cons, ← lines, ih h.2]
    rfl

/-- Lines that are ended are the lines of their text. -/
theorem lines_join {ls : List String} (h : ∀ l ∈ ls, '\n' ∉ l.toList) (rest : String) :
    (lines (String.join (ls.map (· ++ "\n")) ++ rest)).map trim =
      ls.map trim ++ (lines rest).map trim := by
  have hline (l : String) : trim (String.ofList (Chars.dropReturn l.toList)) = trim l := by
    rw [trim_ofList, Chars.trim_dropReturn, trim]
  rw [lines_ended h, List.map_append, List.map_map]
  exact congrArg (· ++ _) (List.map_congr_left fun l _ => hline l)

/-- Lines that are ended, and do not end with a carriage return, are read back. -/
theorem lines_join_eq {ls : List String}
    (h : ∀ l ∈ ls, '\n' ∉ l.toList ∧ l.toList.getLast? ≠ some '\r') :
    lines (String.join (ls.map (· ++ "\n"))) = ls := by
  have hkeep : ∀ l ∈ ls, String.ofList (Chars.dropReturn l.toList) = l := by
    intro l hl
    rw [Chars.dropReturn, if_neg (h l hl).2, String.ofList_toList]
  have hlines := lines_ended (fun l hl => (h l hl).1) ""
  rw [String.append_empty] at hlines
  calc lines (String.join (ls.map (· ++ "\n")))
    _ = ls.map (fun l => String.ofList (Chars.dropReturn l.toList)) ++ lines "" := hlines
    _ = ls.map id ++ [] := congrArg (· ++ []) (List.map_congr_left hkeep)
    _ = ls := by rw [List.map_id, List.append_nil]

end Text

end StorageInventory
