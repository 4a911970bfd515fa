import Mathlib.Data.Finset.Max
import StorageInventory.Identifier
import StorageInventory.Proofs.Text.Lines

/-!
# Spellings of an identifier

Hexadecimal digits with dashes between and around them spell an identifier, whatever the case of
letters, behind a mark or without one, and with blanks around (`Spells`). Its canonical spelling is
that of the digits alone (`Spells.canonical?_eq`), and nothing else has one (`Parts.canonical?_eq`).
-/

namespace StorageInventory.Identifier

/-- Hexadecimal digits and dashes, at least one digit among them. -/
def IsDashed (cs : List Char) : Prop :=
  (cs.all fun c => isHexDigit c || c == '-') = true ∧ cs.any isHexDigit = true

instance (cs : List Char) : Decidable (IsDashed cs) := inferInstanceAs (Decidable (_ ∧ _))

theorem IsDashed.chars (h : IsDashed cs) : ∀ c ∈ cs, isHexDigit c = true ∨ c = '-' := by
  simpa using h.1

theorem IsDashed.digit (h : IsDashed cs) : ∃ c ∈ cs, isHexDigit c = true := List.any_eq_true.mp h.2

theorem isDashed_of_hexDigits (hne : cs ≠ []) (h : cs.all isHexDigit = true) : IsDashed cs := by
  rw [List.all_eq_true] at h
  obtain ⟨c, cs, rfl⟩ := List.exists_cons_of_ne_nil hne
  refine ⟨?_, List.any_eq_true.mpr ⟨c, List.mem_cons_self, h c List.mem_cons_self⟩⟩
  rw [List.all_eq_true]
  exact fun c hc => by simp [h c hc]

/-- The digits of a spelling without its dashes, in small letters. -/
def smallDigits (cs : List Char) : List Char := (cs.filter (· != '-')).map Char.toLower

/-! ## Characters -/

theorem toNat_lt_of_isHexDigit (h : isHexDigit c = true) : c.toNat < 103 := by
  have hle : ∀ d : Char, c ≤ d → c.toNat ≤ d.toNat := fun _ hd => hd
  by_contra hlt
  have hnone : Numeral.digit? 16 c = none := by
    have h9 : ¬c ≤ '9' := fun hc => hlt (Nat.lt_of_le_of_lt (hle _ hc) (by decide))
    have hF : ¬c ≤ 'F' := fun hc => hlt (Nat.lt_of_le_of_lt (hle _ hc) (by decide))
    have hf : ¬c ≤ 'f' := fun hc => hlt (Nat.lt_of_le_of_lt (hle _ hc) (by decide))
    simp [Numeral.digit?, h9, hF, hf]
  rw [isHexDigit, hnone] at h
  exact Bool.false_ne_true h

/-- What holds of the digits is settled by looking at each. -/
theorem hexDigit_cases {P : Char → Prop} [DecidablePred P]
    (hall : ∀ n < 103, isHexDigit (Char.ofNat n) = true → P (Char.ofNat n))
    (h : isHexDigit c = true) : P c := by
  have hc := hall c.toNat (toNat_lt_of_isHexDigit h)
  rw [Char.ofNat_toNat] at hc
  exact hc h

theorem isBlank_of_isHexDigit (h : isHexDigit c = true) : Chars.isBlank c = false :=
  hexDigit_cases (P := fun c => Chars.isBlank c = false) (by decide) h

theorem ne_dash_of_isHexDigit (h : isHexDigit c = true) : c ≠ '-' :=
  hexDigit_cases (P := fun c => c ≠ '-') (by decide) h

/-- A digit made small is a digit, and begins neither mark. -/
theorem isHexDigit_toLower (h : isHexDigit c = true) :
    isHexDigit c.toLower = true ∧ c.toLower ≠ 'x' ∧ c.toLower ≠ 'n' :=
  hexDigit_cases
    (P := fun c => isHexDigit c.toLower = true ∧ c.toLower ≠ 'x' ∧ c.toLower ≠ 'n') (by decide) h

theorem toLower_toLower_of_isHexDigit (h : isHexDigit c = true) : c.toLower.toLower = c.toLower :=
  hexDigit_cases (P := fun c => c.toLower.toLower = c.toLower) (by decide) h

theorem toLower_cases (c : Char) : c.toLower = c ∨ 65 ≤ c.toNat ∧ c.toNat < 91 := by
  unfold Char.toLower
  split
  · rename_i h
    exact .inr ⟨h.1, Nat.lt_succ_of_le h.2⟩
  · exact .inl rfl

/-- What is made a digit or a dash is one. -/
theorem of_toLower (h : isHexDigit c.toLower = true ∨ c.toLower = '-') :
    isHexDigit c = true ∨ c = '-' := by
  rcases toLower_cases c with hc | ⟨hlow, hhigh⟩
  · rwa [hc] at h
  · have hall : ∀ n < 91, 65 ≤ n → isHexDigit (Char.ofNat n).toLower = true ∨
        (Char.ofNat n).toLower = '-' → isHexDigit (Char.ofNat n) = true ∨ Char.ofNat n = '-' := by
      decide
    have hc := hall c.toNat hhigh hlow
    rw [Char.ofNat_toNat] at hc
    exact hc h

theorem isBlank_of_toLower (h : c.toLower ∈ "naa.0x".toList) : Chars.isBlank c = false := by
  rcases toLower_cases c with hc | ⟨hlow, hhigh⟩
  · have hall : ("naa.0x".toList.any Chars.isBlank) = false := by decide
    rw [hc] at h
    exact Bool.eq_false_of_not_eq_true (List.any_eq_false.mp hall c h)
  · have hall : ∀ n < 91, 65 ≤ n → Chars.blankCodes.contains n = false := by decide
    exact hall c.toNat hhigh hlow

theorem toLower_eq_dash_iff (c : Char) : c.toLower = '-' ↔ c = '-' := by
  constructor
  · intro h
    rcases of_toLower (.inr h) with hdigit | hdash
    · exact absurd h (ne_dash_of_isHexDigit (isHexDigit_toLower hdigit).1)
    · exact hdash
  · rintro rfl
    rfl

theorem isHexDigit_toLower_iff (c : Char) : isHexDigit c.toLower = true ↔ isHexDigit c = true := by
  refine ⟨fun h => (of_toLower (.inl h)).resolve_right ?_, fun h => (isHexDigit_toLower h).1⟩
  rintro rfl
  cases h

/-! ## Digits and dashes -/

theorem IsDashed.isBlank (h : IsDashed cs) (hc : c ∈ cs) : Chars.isBlank c = false := by
  rcases h.chars c hc with hdigit | rfl
  · exact isBlank_of_isHexDigit hdigit
  · rfl

theorem IsDashed.notMem_toLower (h : IsDashed cs) :
    'x' ∉ cs.map Char.toLower ∧ 'n' ∉ cs.map Char.toLower := by
  have hne : ∀ c ∈ cs, c.toLower ≠ 'x' ∧ c.toLower ≠ 'n' := by
    intro c hc
    rcases h.chars c hc with hdigit | rfl
    · exact (isHexDigit_toLower hdigit).2
    · decide
  simp only [List.mem_map, not_exists, not_and]
  exact ⟨fun c hc => (hne c hc).1, fun c hc => (hne c hc).2⟩

theorem filter_map_toLower (cs : List Char) :
    (cs.map Char.toLower).filter (· != '-') = smallDigits cs := by
  rw [smallDigits, List.filter_map]
  congr 1
  refine List.filter_congr fun c _ => ?_
  have hiff := toLower_eq_dash_iff c
  simp [bne, hiff]

/-- What is left of digits and dashes without the dashes is digits, and not empty. -/
theorem isDashed_iff (cs : List Char) : IsDashed cs ↔
    cs.filter (· != '-') ≠ [] ∧ ∀ c ∈ cs.filter (· != '-'), isHexDigit c = true := by
  constructor
  · intro h
    obtain ⟨c, hc, hdigit⟩ := h.digit
    refine ⟨List.ne_nil_of_mem (List.mem_filter.mpr ⟨hc, ?_⟩), fun c hc => ?_⟩
    · exact bne_iff_ne.mpr (ne_dash_of_isHexDigit hdigit)
    · obtain ⟨hc, hdash⟩ := List.mem_filter.mp hc
      exact (h.chars c hc).resolve_right (bne_iff_ne.mp hdash)
  · rintro ⟨hne, hdigits⟩
    obtain ⟨c, hc⟩ := List.exists_mem_of_ne_nil _ hne
    refine ⟨List.all_eq_true.mpr fun c hc => ?_, ?_⟩
    · by_cases hdash : c = '-'
      · simp [hdash]
      · simp [hdigits c (List.mem_filter.mpr ⟨hc, bne_iff_ne.mpr hdash⟩)]
    · exact List.any_eq_true.mpr ⟨c, (List.mem_filter.mp hc).1, hdigits c hc⟩

/-! ## Marks in front -/

/-- What may stand in front of the digits, in small letters. -/
def marks : List (List Char) := ["", "0x", "naa.", "naa.0x"].map String.toList

theorem without_of_notPrefix (h : ¬mark <+: cs) : without mark cs = cs := by
  rw [without]
  cases hfront : mark.isPrefixOf? cs with
  | none => rfl
  | some rest => exact absurd ⟨rest, List.isPrefixOf?_eq_some_iff_append_eq.mp hfront⟩ h

theorem without_append (mark cs : List Char) : without mark (mark ++ cs) = cs := by
  rw [without, List.isPrefixOf?_eq_some_iff_append_eq.mpr rfl, Option.getD_some]

/-- The mark of a text and what is behind it, when the blanks around the text are gone: of the marks
that stand in front the mark is the longest. -/
structure Parts (s : String) (mark body : List Char) : Prop where
  trim_eq : Chars.trim s.toList = mark ++ body
  isMark : mark.map Char.toLower ∈ marks
  longest : ∀ m ∈ marks, m <+: (mark ++ body).map Char.toLower → m.length ≤ mark.length

theorem exists_parts (s : String) : ∃ mark body, Parts s mark body := by
  generalize htext : Chars.trim s.toList = text
  have hempty : ([] : List Char) ∈ (marks.filter (· <+: text.map Char.toLower)).toFinset := by
    simp [marks]
  obtain ⟨m, hm, hlongest⟩ := Finset.exists_max_image _ List.length ⟨_, hempty⟩
  simp only [List.mem_toFinset, List.mem_filter, decide_eq_true_eq] at hm hlongest
  have hmark : (text.take m.length).map Char.toLower = m := by
    rw [List.map_take]
    exact (List.prefix_iff_eq_take.mp hm.2).symm
  refine ⟨text.take m.length, text.drop m.length, ?_, hmark.symm ▸ hm.1, ?_⟩
  · rw [htext, List.take_append_drop]
  · intro m' hm' hfront
    rw [List.take_append_drop] at hfront
    have hlength := congrArg List.length hmark
    rw [List.length_map] at hlength
    rw [hlength]
    exact hlongest m' ⟨hm', hfront⟩

/-- The digits of a text are those behind its mark. -/
theorem Parts.digits_eq (h : Parts s mark body) : digits s.toList = smallDigits body := by
  obtain ⟨htrim, hmark, hlongest⟩ := h
  have hlength : (mark.map Char.toLower).length = mark.length := List.length_map _
  rw [digits, htrim, ← filter_map_toLower]
  rw [List.map_append] at hlongest ⊢
  generalize mark.map Char.toLower = m at *
  generalize body.map Char.toLower = rest at *
  have hnot : ∀ m' ∈ marks, m.length < m'.length → ¬m' <+: m ++ rest :=
    fun m' hm' hlt hfront => Nat.not_le_of_lt hlt (hlength ▸ hlongest m' hm' hfront)
  have hzero : ¬"0x".toList <+: rest → without "0x".toList rest = rest := without_of_notPrefix
  simp only [marks, List.map_cons, List.map_nil, List.mem_cons, List.not_mem_nil, or_false] at hmark
  rcases hmark with rfl | rfl | rfl | rfl
  · have hnaa : ¬"naa.".toList <+: rest := hnot "naa.".toList (by decide) (by decide)
    rw [String.toList_empty, List.nil_append, without_of_notPrefix hnaa,
      hzero (hnot "0x".toList (by decide) (by decide))]
  · rw [without_of_notPrefix (hnot "naa.".toList (by decide) (by decide)), without_append]
  · rw [without_append, hzero]
    intro hfront
    refine hnot "naa.0x".toList (by decide) (by decide) ?_
    exact (List.prefix_append_right_inj "naa.".toList).mpr hfront
  · rw [show "naa.0x".toList = "naa.".toList ++ "0x".toList from rfl, List.append_assoc,
      without_append, without_append]

/-- A text whose rest behind the mark is made of digits and dashes has a canonical spelling, and no
other text does. -/
theorem Parts.canonical?_eq (h : Parts s mark body) :
    canonical? s =
      if IsDashed body then some (String.ofList ('0' :: 'x' :: smallDigits body)) else none := by
  have hempty : (smallDigits body).isEmpty = true ↔ body.filter (· != '-') = [] := by
    rw [smallDigits, List.isEmpty_iff, List.map_eq_nil_iff]
  have hall : (smallDigits body).all isHexDigit = true ↔
      ∀ c ∈ body.filter (· != '-'), isHexDigit c = true := by
    simp only [smallDigits, List.all_map, List.all_eq_true, Function.comp_apply,
      isHexDigit_toLower_iff]
  rw [canonical?, h.digits_eq]
  by_cases hbody : IsDashed body
  · obtain ⟨hne, hdigits⟩ := (isDashed_iff body).mp hbody
    rw [if_pos hbody, if_neg]
    rw [Bool.or_eq_true, hempty, Bool.not_eq_true', hall.mpr hdigits]
    exact fun hnil => hnil.elim hne Bool.noConfusion
  · rw [if_neg hbody, if_pos]
    rw [isDashed_iff, ← hall, not_and_or, not_not, ← hempty, Bool.not_eq_true] at hbody
    rwa [Bool.or_eq_true, Bool.not_eq_true']

/-! ## Spellings -/

/-- The text spells an identifier with the given digits: they stand behind a mark, or behind none,
with dashes between and around them, and with blanks around it all. -/
inductive Spells (s : String) : List Char → Prop
  | intro (front mark body back : List Char) : s.toList = front ++ (mark ++ body) ++ back →
    (∀ c ∈ front, Chars.isBlank c = true) → mark.map Char.toLower ∈ marks → IsDashed body →
    (∀ c ∈ back, Chars.isBlank c = true) → Spells s (body.filter (· != '-'))

theorem trimmed_marked (hmark : mark.map Char.toLower ∈ marks) (hbody : IsDashed body) :
    Chars.Trimmed (mark ++ body) := by
  have hmarks : ∀ m ∈ marks, m ⊆ "naa.0x".toList := by decide
  refine Chars.trimmed_of_notBlank fun c hc => ?_
  rcases List.mem_append.mp hc with hc | hc
  · exact isBlank_of_toLower (hmarks _ hmark (List.mem_map_of_mem hc))
  · exact hbody.isBlank hc

/-- In front of digits and dashes a mark is not part of a longer one. -/
theorem longest_marked (hmark : mark.map Char.toLower ∈ marks) (hbody : IsDashed body) :
    ∀ m ∈ marks, m <+: (mark ++ body).map Char.toLower → m.length ≤ mark.length := by
  intro m hm hfront
  have hlength : (mark.map Char.toLower).length = mark.length := List.length_map _
  obtain ⟨hx, hn⟩ := hbody.notMem_toLower
  rw [List.map_append] at hfront
  rw [← hlength]
  generalize mark.map Char.toLower = mark at *
  by_contra hlt
  have hlt : mark.length < m.length := Nat.lt_of_not_le hlt
  have hshort : mark <+: m :=
    List.prefix_of_prefix_length_le (List.prefix_append _ _) hfront (Nat.le_of_lt hlt)
  -- a longer mark goes on with a letter that is no digit
  have hmore : ∀ mark ∈ marks, ∀ m ∈ marks, mark <+: m → mark.length < m.length →
      'x' ∈ m.drop mark.length ∨ 'n' ∈ m.drop mark.length := by decide
  have hrest : m.drop mark.length <+: body.map Char.toLower := by
    have h := hfront.drop mark.length
    rwa [List.drop_left] at h
  rcases hmore mark hmark m hm hshort hlt with h | h
  · exact hx (hrest.subset h)
  · exact hn (hrest.subset h)

theorem Spells.parts (h : Spells s ds) :
    ∃ mark body, Parts s mark body ∧ IsDashed body ∧ body.filter (· != '-') = ds := by
  cases h with
  | intro front mark body back hs hfront hmark hbody hback =>
    refine ⟨mark, body, ⟨?_, hmark, longest_marked hmark hbody⟩, hbody, rfl⟩
    rw [hs, Chars.trim_of_blanks hfront hback, (trimmed_marked hmark hbody).trim_eq]

theorem Parts.spells (h : Parts s mark body) (hbody : IsDashed body) :
    Spells s (body.filter (· != '-')) := by
  obtain ⟨front, back, hfront, hback, hs⟩ := Chars.exists_trim s.toList
  rw [h.trim_eq] at hs
  exact .intro front mark body back hs hfront h.isMark hbody hback

theorem canonical?_trim (s : String) : canonical? (Text.trim s) = canonical? s := by
  have htext : (Text.trim s).toList = Chars.trim s.toList := String.toList_ofList
  have hdigits : digits (Text.trim s).toList = digits s.toList := by
    rw [digits, htext, Chars.trim_trim, digits]
  rw [canonical?, hdigits, canonical?]

/-- All spellings of the same digits have one canonical spelling. -/
theorem Spells.canonical?_eq (h : Spells s ds) :
    canonical? s = some (String.ofList ('0' :: 'x' :: ds.map Char.toLower)) := by
  obtain ⟨mark, body, hparts, hbody, rfl⟩ := h.parts
  rw [hparts.canonical?_eq, if_pos hbody]
  rfl

theorem canonicalText_inj {ds es : List Char} :
    String.ofList ('0' :: 'x' :: ds) = String.ofList ('0' :: 'x' :: es) ↔ ds = es := by
  rw [String.ofList_inj, List.cons_inj_right, List.cons_inj_right]

/-- What has a canonical spelling is a spelling. -/
theorem canonical?_eq_some_iff {id : String} : canonical? s = some id ↔
    ∃ ds, Spells s ds ∧ id = String.ofList ('0' :: 'x' :: ds.map Char.toLower) := by
  constructor
  · intro h
    obtain ⟨mark, body, hparts⟩ := exists_parts s
    rw [hparts.canonical?_eq] at h
    split at h
    · rename_i hbody
      exact ⟨_, hparts.spells hbody, (Option.some.inj h).symm⟩
    · cases h
  · rintro ⟨ds, hs, rfl⟩
    exact hs.canonical?_eq

theorem IsDashed.spells (h : IsDashed s.toList) : Spells s (s.toList.filter (· != '-')) :=
  .intro [] [] s.toList [] (by simp) (by simp) (by decide) h (by simp)

/-- The canonical spelling of digits and dashes is that of the digits alone. -/
theorem canonical?_of_dashed (h : IsDashed s.toList) :
    canonical? s = some (String.ofList ('0' :: 'x' :: smallDigits s.toList)) :=
  h.spells.canonical?_eq

/-- A canonical spelling is its own canonical spelling. -/
theorem canonical?_canonical {id : String} (h : canonical? s = some id) :
    canonical? id = some id := by
  obtain ⟨ds, hs, rfl⟩ := canonical?_eq_some_iff.mp h
  obtain ⟨mark, body, -, hbody, rfl⟩ := hs.parts
  obtain ⟨hne, hhex⟩ := (isDashed_iff body).mp hbody
  generalize body.filter (· != '-') = ds at *
  have hsmall : ∀ c ∈ ds.map Char.toLower, isHexDigit c = true ∧ c.toLower = c := by
    intro c hc
    obtain ⟨d, hd, rfl⟩ := List.mem_map.mp hc
    exact ⟨(isHexDigit_toLower (hhex d hd)).1, toLower_toLower_of_isHexDigit (hhex d hd)⟩
  have hdashed : IsDashed (ds.map Char.toLower) :=
    isDashed_of_hexDigits (by simpa using hne) (List.all_eq_true.mpr fun c hc => (hsmall c hc).1)
  have hspells : Spells (String.ofList ('0' :: 'x' :: ds.map Char.toLower)) _ :=
    .intro [] "0x".toList _ [] (by simp) (by simp) (by decide) hdashed (by simp)
  rw [List.filter_eq_self.mpr fun c hc => bne_iff_ne.mpr (ne_dash_of_isHexDigit (hsmall c hc).1)]
    at hspells
  have hcanonical := hspells.canonical?_eq
  rw [List.map_congr_left fun c hc => (hsmall c hc).2, List.map_id'] at hcanonical
  simpa using hcanonical

end StorageInventory.Identifier
