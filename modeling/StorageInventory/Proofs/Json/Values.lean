import StorageInventory.Proofs.Json.Tokens

/-!
# JSON values that are printed and read again

One step of the reader takes one part off the text. By induction on the value, everything that is
printed for it is read as the value (`Json.Plain.reads`), in every layout that puts nothing but
space between tokens; so printing loses nothing (`Json.parse?_pretty`, `Json.parse?_compact`).
-/

namespace StorageInventory.Json
variable {budget depth : Nat} {cs rest : List Char} {layout : Layout}

/-- A value without the parts that only stand for what could not be read. -/
inductive Plain : Json → Prop
  | null : Plain .null
  | bool (b : Bool) : Plain (.bool b)
  | int (n : Int) : Plain (.int n)
  | str (s : String) : Plain (.str s)
  | arr : (∀ item ∈ items, Plain item) → Plain (.arr items)
  | obj : (∀ member ∈ members, Plain member.2) → Plain (.obj members)

/-- A layout that puts nothing but space between the tokens. -/
structure Layout.Spaced (layout : Layout) : Prop where
  before : ∀ depth, ∀ c ∈ layout.before depth, isSpace c = true
  close : ∀ depth, ∀ c ∈ layout.close depth, isSpace c = true
  afterName : ∃ spaces, layout.afterName = ':' :: spaces ∧ ∀ c ∈ spaces, isSpace c = true

theorem isSpace_of_mem_newLine (depth : Nat) : ∀ c ∈ newLine depth, isSpace c = true := by
  refine List.forall_mem_cons.mpr ⟨rfl, fun c hc => ?_⟩
  rw [List.eq_of_mem_replicate hc]
  rfl

theorem Layout.lines_spaced : Layout.lines.Spaced :=
  ⟨isSpace_of_mem_newLine, isSpace_of_mem_newLine, [' '], rfl, List.forall_mem_singleton.mpr rfl⟩

theorem Layout.compact_spaced : Layout.compact.Spaced :=
  ⟨fun _ _ => nofun, fun _ _ => nofun, [], rfl, nofun⟩

/-! ## What a number begins with -/

theorem ne_of_startsNumber (h : c = '-' ∨ c.isDigit = true) (hd : ¬ (d = '-' ∨ d.isDigit = true)) :
    c ≠ d := by
  rintro rfl
  exact hd h

theorem isSpace_of_startsNumber (h : c = '-' ∨ c.isDigit = true) : isSpace c = false := by
  simp only [isSpace, Bool.or_eq_false_iff, beq_eq_false_iff_ne]
  refine ⟨⟨⟨?_, ?_⟩, ?_⟩, ?_⟩ <;> exact ne_of_startsNumber h (by decide)

/-- A number begins with a sign or a digit. -/
theorem intChars_first (n : Int) :
    ∃ c cs, intChars n = c :: cs ∧ (c = '-' ∨ c.isDigit = true) := by
  cases n with
  | ofNat n =>
    obtain ⟨d, ds, hds, hd⟩ := Numeral.toDigits_first n
    exact ⟨d, ds, hds, .inr hd⟩
  | negSucc n => exact ⟨_, _, rfl, .inl rfl⟩

/-! ## Space -/

theorem skip_append (h : ∀ c ∈ spaces, isSpace c = true) (cs : List Char) :
    skip (spaces ++ cs) = skip cs := List.dropWhile_append_of_pos h

theorem skip_cons (h : isSpace c = false) (cs : List Char) : skip (c :: cs) = c :: cs :=
  List.dropWhile_cons_of_neg (Bool.not_eq_true _ ▸ h)

/-- Space in front of a token is passed over. -/
theorem skip_append_cons (hspaces : ∀ c ∈ spaces, isSpace c = true) (h : isSpace c = false)
    (cs : List Char) : skip (spaces ++ c :: cs) = c :: cs := by
  rw [skip_append hspaces, skip_cons h]

theorem Stops.append_cons (hspaces : ∀ c ∈ spaces, isSpace c = true) (h : isStop c = true)
    (cs : List Char) : Stops (spaces ++ c :: cs) := by
  cases spaces with
  | nil => exact .cons h cs
  | cons space spaces =>
    refine .cons ?_ _
    rw [isStop, hspaces space List.mem_cons_self]
    rfl

/-- Space in front of a value does not matter. -/
theorem value?_spaces (h : ∀ c ∈ spaces, isSpace c = true) :
    value? budget (spaces ++ cs) = value? budget cs := by
  cases budget with
  | zero => rfl
  | succ budget => rw [value?, value?, skip_append h]

theorem items?_spaces (h : ∀ c ∈ spaces, isSpace c = true) :
    items? budget (spaces ++ cs) = items? budget cs := by
  cases budget with
  | zero => rfl
  | succ budget => rw [items?, items?, value?_spaces h]

theorem members?_spaces (h : ∀ c ∈ spaces, isSpace c = true) :
    members? budget (spaces ++ cs) = members? budget cs := by
  cases budget with
  | zero => rfl
  | succ budget => rw [members?, members?, skip_append h]

/-! ## Steps of the reader -/

theorem value?_text (h : text? budget cs = some (some s, rest)) :
    value? (budget + 1) ('"' :: cs) = some (.str s, rest) := by
  rw [value?, skip_cons (c := '"') rfl]
  simp only [h]
  rfl

theorem value?_number (h : c = '-' ∨ c.isDigit = true) (cs : List Char) :
    value? (budget + 1) (c :: cs) = number? (c :: cs) := by
  rw [value?, skip_cons (isSpace_of_startsNumber h)]
  split
  all_goals first
    | rfl
    | rename_i heq
      injection heq with hc
      exact absurd hc (ne_of_startsNumber h (by decide))

/-- A value that begins with a bracket, and does not end with the next token, is an array with
items. -/
theorem value?_items (hskip : skip cs = c :: ds) (hc : c ≠ ']')
    (hitems : items? budget (c :: ds) = some (items, rest)) :
    value? (budget + 1) ('[' :: cs) = some (.arr items, rest) := by
  rw [value?, skip_cons (c := '[') rfl]
  simp only [hskip]
  split
  · rename_i heq
    injection heq with hc'
    exact absurd hc' hc
  · rw [hitems]
    rfl

/-- A value that begins with a brace, and goes on with a quote, is an object with members. -/
theorem value?_members (hskip : skip cs = '"' :: ds)
    (hmembers : members? budget ('"' :: ds) = some (some members, rest)) :
    value? (budget + 1) ('\x7b' :: cs) = some (.obj members, rest) := by
  rw [value?, skip_cons (c := '\x7b') rfl]
  simp only [hskip]
  split
  · rename_i heq
    cases heq
  · rw [hmembers]
    rfl

theorem items?_last (hitem : value? budget cs = some (item, ds)) (hds : skip ds = ']' :: rest) :
    items? (budget + 1) cs = some ([item], rest) := by
  rw [items?, hitem, Option.bind_eq_bind, Option.bind_some]
  simp only [hds]
  rfl

/-- A comma behind an item announces another one. -/
theorem items?_cons (hitem : value? budget cs = some (item, ds)) (hds : skip ds = ',' :: more)
    (hitems : items? budget more = some (items, rest)) :
    items? (budget + 1) cs = some (item :: items, rest) := by
  rw [items?, hitem, Option.bind_eq_bind, Option.bind_some]
  simp only [hds, hitems]
  rfl

theorem members?_last (hcs : skip cs = '"' :: ds) (hname : text? budget ds = some (some name, es))
    (hes : skip es = ':' :: fs) (hitem : value? budget fs = some (item, gs))
    (hgs : skip gs = '\x7d' :: rest) :
    members? (budget + 1) cs = some (some [(name, item)], rest) := by
  rw [members?]
  simp only [hcs, hname, hes, hitem, hgs, Option.bind_eq_bind, Option.bind_some]
  rfl

/-- A comma behind a member announces another one. -/
theorem members?_cons (hcs : skip cs = '"' :: ds) (hname : text? budget ds = some (some name, es))
    (hes : skip es = ':' :: fs) (hitem : value? budget fs = some (item, gs))
    (hgs : skip gs = ',' :: more) (hmembers : members? budget more = some (some members, rest)) :
    members? (budget + 1) cs = some (some ((name, item) :: members), rest) := by
  rw [members?]
  simp only [hcs, hname, hes, hitem, hgs, hmembers, Option.bind_eq_bind, Option.bind_some]
  rfl

/-! ## Values -/

/-- No value begins with a space, or with what ends an array. -/
theorem Plain.chars_first (h : Plain j) (layout : Layout) (depth : Nat) :
    ∃ c cs, chars layout depth j = c :: cs ∧ isSpace c = false ∧ c ≠ ']' := by
  cases h with
  | null => exact ⟨_, _, rfl, rfl, by decide⟩
  | bool b => cases b <;> exact ⟨_, _, rfl, rfl, by decide⟩
  | int n =>
    obtain ⟨c, cs, hcs, hc⟩ := intChars_first n
    exact ⟨c, cs, hcs, isSpace_of_startsNumber hc, ne_of_startsNumber hc (by decide)⟩
  | str s => exact ⟨_, _, rfl, rfl, by decide⟩
  | @arr items _ => cases items <;> exact ⟨_, _, rfl, rfl, by decide⟩
  | @obj members _ => cases members <;> exact ⟨_, _, rfl, rfl, by decide⟩

/-- What is printed for a value is read as the value, behind anything and in front of what may stand
behind a value. Each character is worth two steps of the budget. -/
def Reads (layout : Layout) (j : Json) : Prop :=
  ∀ depth budget rest, 2 * (chars layout depth j).length ≤ budget → Stops rest →
    value? budget (chars layout depth j ++ rest) = some (j, rest)

/-- A number among items ends where the next one or the bracket begins. -/
theorem stops_itemChars (hspaced : layout.Spaced) (depth outer : Nat) (items : List Json)
    (rest : List Char) :
    Stops (itemChars layout depth items ++ (layout.close outer ++ ']' :: rest)) := by
  cases items with
  | nil => exact .append_cons (hspaced.close outer) rfl rest
  | cons item items => exact .cons rfl _

theorem stops_memberChars (hspaced : layout.Spaced) (depth outer : Nat)
    (members : List (String × Json)) (rest : List Char) :
    Stops (memberChars layout depth members ++ (layout.close outer ++ '\x7d' :: rest)) := by
  cases members with
  | nil => exact .append_cons (hspaced.close outer) rfl rest
  | cons member members => exact .cons rfl _

/-- Items that are read one by one are read together. -/
theorem items?_reads (hspaced : layout.Spaced) (outer : Nat) (rest : List Char)
    (hitems : ∀ j ∈ item :: items, Reads layout j)
    (hbudget : 2 * (chars layout depth item ++ itemChars layout depth items).length < budget) :
    items? budget (chars layout depth item ++ (itemChars layout depth items ++
      (layout.close outer ++ ']' :: rest))) = some (item :: items, rest) := by
  -- Reading an item and reading the items behind it take their steps from the same budget.
  induction items generalizing item budget with
  | nil =>
    obtain _ | budget := budget
    · omega
    rw [List.length_append] at hbudget
    have hitem := hitems item List.mem_cons_self depth budget _ (by omega)
      (stops_itemChars hspaced depth outer [] rest)
    exact items?_last hitem (skip_append_cons (hspaced.close outer) rfl rest)
  | cons next items ih =>
    obtain _ | budget := budget
    · omega
    rw [List.forall_mem_cons] at hitems
    simp only [itemChars, List.length_append, List.length_cons] at hbudget
    have hitem := hitems.1 depth budget _ (by omega)
      (stops_itemChars hspaced depth outer (next :: items) rest)
    have hlength :
        2 * (chars layout depth next ++ itemChars layout depth items).length < budget := by
      rw [List.length_append]
      omega
    have hnext := ih hitems.2 hlength
    have hmore : itemChars layout depth (next :: items) ++ (layout.close outer ++ ']' :: rest) =
        ',' :: (layout.before depth ++ (chars layout depth next ++
          (itemChars layout depth items ++ (layout.close outer ++ ']' :: rest)))) := by
      simp only [itemChars, List.cons_append, List.append_assoc]
    rw [hmore] at hitem ⊢
    refine items?_cons hitem (skip_cons rfl _) ?_
    rw [items?_spaces (hspaced.before depth)]
    exact hnext

/-- Members that are read one by one are read together. -/
theorem members?_reads (hspaced : layout.Spaced) (outer : Nat) (rest : List Char)
    (hmembers : ∀ m ∈ (name, item) :: members, Reads layout m.2)
    (hbudget : 2 * (quotedChars name ++ chars layout depth item ++
      memberChars layout depth members).length < budget) :
    members? budget (quotedChars name ++ (layout.afterName ++ (chars layout depth item ++
      (memberChars layout depth members ++ (layout.close outer ++ '\x7d' :: rest))))) =
        some (some ((name, item) :: members), rest) := by
  obtain ⟨spaces, hafter, hspaces⟩ := hspaced.afterName
  induction members generalizing name item budget with
  | nil =>
    obtain _ | budget := budget
    · omega
    have hquoted := length_le_quotedChars name
    simp only [List.length_append] at hbudget
    have hread : Reads layout item := hmembers _ List.mem_cons_self
    have hitem := hread depth budget _ (by omega) (stops_memberChars hspaced depth outer [] rest)
    rw [← value?_spaces hspaces] at hitem
    rw [quotedChars_append, hafter]
    exact members?_last (skip_cons rfl _) (text?_escaped (by omega) _) (skip_cons rfl _) hitem
      (skip_append_cons (hspaced.close outer) rfl rest)
  | cons next members ih =>
    obtain _ | budget := budget
    · omega
    obtain ⟨nextName, next⟩ := next
    have hquoted := length_le_quotedChars name
    rw [List.forall_mem_cons] at hmembers
    have hread : Reads layout item := hmembers.1
    simp only [memberChars, List.length_append, List.length_cons] at hbudget
    have hitem := hread depth budget _ (by omega)
      (stops_memberChars hspaced depth outer ((nextName, next) :: members) rest)
    have hlength : 2 * (quotedChars nextName ++ chars layout depth next ++
        memberChars layout depth members).length < budget := by
      simp only [List.length_append]
      omega
    have hnext := ih hmembers.2 hlength
    have hmore : memberChars layout depth ((nextName, next) :: members) ++
        (layout.close outer ++ '\x7d' :: rest) =
        ',' :: (layout.before depth ++ (quotedChars nextName ++ (layout.afterName ++
          (chars layout depth next ++ (memberChars layout depth members ++
            (layout.close outer ++ '\x7d' :: rest)))))) := by
      simp only [memberChars, List.cons_append, List.append_assoc]
    rw [hmore, hafter] at hitem ⊢
    rw [← value?_spaces hspaces] at hitem
    rw [quotedChars_append]
    refine members?_cons (skip_cons rfl _) (text?_escaped (by omega) _) (skip_cons rfl _) hitem
      (skip_cons rfl _) ?_
    rw [members?_spaces (hspaced.before depth), ← hafter]
    exact hnext

/-- The text of a plain value is not empty, so there is fuel for a first step. -/
theorem Reads.of_succ (h : Plain j)
    (hreads : ∀ depth budget rest, 2 * (chars layout depth j).length ≤ budget + 1 → Stops rest →
      value? (budget + 1) (chars layout depth j ++ rest) = some (j, rest)) : Reads layout j := by
  intro depth budget rest hbudget hrest
  obtain ⟨c, cs, hcs, -, -⟩ := h.chars_first layout depth
  obtain _ | budget := budget
  · simp [hcs] at hbudget
  · exact hreads depth budget rest hbudget hrest

theorem reads_int (n : Int) : Reads layout (.int n) := by
  refine .of_succ (.int n) fun depth budget rest _ hrest => ?_
  obtain ⟨c, cs, hcs, hc⟩ := intChars_first n
  rw [chars, hcs, List.cons_append, value?_number hc, ← List.cons_append, ← hcs,
    number?_intChars n hrest]

theorem reads_str (s : String) : Reads layout (.str s) := by
  refine .of_succ (.str s) fun depth budget rest hbudget _ => ?_
  have hquoted := length_le_quotedChars s
  rw [chars] at hbudget ⊢
  rw [quotedChars_append]
  exact value?_text (text?_escaped (by omega) rest)

theorem reads_arr (hspaced : layout.Spaced) (hitems : ∀ item ∈ items, Plain item)
    (hreads : ∀ item ∈ items, Reads layout item) : Reads layout (.arr items) := by
  refine .of_succ (.arr hitems) fun depth budget rest hbudget _ => ?_
  cases items with
  | nil => rfl
  | cons item items =>
    simp only [chars, List.length_append, List.length_cons] at hbudget
    have hlength : 2 * (chars layout (depth + 1) item ++
        itemChars layout (depth + 1) items).length < budget := by
      rw [List.length_append]
      omega
    have hread := items?_reads hspaced depth rest hreads hlength
    have hchars : chars layout depth (.arr (item :: items)) ++ rest =
        '[' :: (layout.before (depth + 1) ++ (chars layout (depth + 1) item ++
          (itemChars layout (depth + 1) items ++ (layout.close depth ++ ']' :: rest)))) := by
      simp only [chars, List.cons_append, List.append_assoc, List.nil_append]
    obtain ⟨c, cs, hcs, hspace, hc⟩ := (hitems item List.mem_cons_self).chars_first layout
      (depth + 1)
    rw [hchars]
    rw [hcs, List.cons_append] at hread ⊢
    exact value?_items (skip_append_cons (hspaced.before _) hspace _) hc hread

theorem reads_obj (hspaced : layout.Spaced) (hmembers : ∀ member ∈ members, Plain member.2)
    (hreads : ∀ member ∈ members, Reads layout member.2) : Reads layout (.obj members) := by
  refine .of_succ (.obj hmembers) fun depth budget rest hbudget _ => ?_
  cases members with
  | nil => rfl
  | cons member members =>
    obtain ⟨name, item⟩ := member
    simp only [chars, List.length_append, List.length_cons] at hbudget
    have hlength : 2 * (quotedChars name ++ chars layout (depth + 1) item ++
        memberChars layout (depth + 1) members).length < budget := by
      simp only [List.length_append]
      omega
    have hread := members?_reads hspaced depth rest hreads hlength
    have hchars : chars layout depth (.obj ((name, item) :: members)) ++ rest =
        '\x7b' :: (layout.before (depth + 1) ++ (quotedChars name ++ (layout.afterName ++
          (chars layout (depth + 1) item ++ (memberChars layout (depth + 1) members ++
            (layout.close depth ++ '\x7d' :: rest)))))) := by
      simp only [chars, List.cons_append, List.append_assoc, List.nil_append]
    rw [hchars]
    rw [quotedChars_append] at hread ⊢
    exact value?_members (skip_append_cons (hspaced.before _) rfl _) hread

/-- What is printed for a value is read as that value. -/
theorem Plain.reads (hspaced : layout.Spaced) (h : Plain j) : Reads layout j := by
  induction h with
  | null => exact .of_succ .null fun _ _ _ _ _ => rfl
  | bool b => exact .of_succ (.bool b) fun _ _ _ _ _ => by cases b <;> rfl
  | int n => exact reads_int n
  | str s => exact reads_str s
  | arr hitems ih => exact reads_arr hspaced hitems ih
  | obj hmembers ih => exact reads_obj hspaced hmembers ih

/-- A plain value is read back from any layout that adds space alone. -/
theorem parse?_chars (hspaced : layout.Spaced) (h : Plain j) :
    parse? (String.ofList (chars layout 0 j)) = some j := by
  have hread := h.reads hspaced 0 (2 * (chars layout 0 j).length + 2) [] (Nat.le_add_right _ _)
    nofun
  rw [List.append_nil] at hread
  rw [parse?, String.toList_ofList]
  simp only [hread, Option.bind_eq_bind, Option.bind_some]
  rfl

/-- What is printed over several lines is read again. -/
theorem parse?_pretty (h : Plain j) : parse? j.pretty = some j := parse?_chars Layout.lines_spaced h

/-- What is printed on one line is read again. -/
theorem parse?_compact (h : Plain j) : parse? j.compact = some j :=
  parse?_chars Layout.compact_spaced h

end StorageInventory.Json
