import StorageInventory.FileTree.Basic
import StorageInventory.Proofs.Text.Lines

/-!
# Paths of places

The path of a place leads back to its names (`Path.steps_ofPlace`), a path below it to more of them
(`Path.join_ofPlace`), and every place that a path leads to has such names (`FileTree.place_names`).
-/

namespace StorageInventory

/-- A step to one name, and no path of several. -/
structure IsStep (step : String) : Prop where
  nonempty : step ≠ ""
  noSlash : '/' ∉ step.toList

/-- A name that something can have at a place. -/
structure IsName (name : String) : Prop extends IsStep name where
  notHere : name ≠ "."
  notUp : name ≠ ".."

instance : DecidablePred IsName := fun name =>
  decidable_of_iff ((name ≠ "" ∧ '/' ∉ name.toList) ∧ name ≠ "." ∧ name ≠ "..")
    ⟨fun ⟨⟨hempty, hslash⟩, hhere, hup⟩ => ⟨⟨hempty, hslash⟩, hhere, hup⟩,
      fun h => ⟨⟨h.nonempty, h.noSlash⟩, h.notHere, h.notUp⟩⟩

namespace Path

/-- The names between the slashes of a path. -/
def names (path : String) : List String := (Text.piecesAt path '/').filter (!·.isEmpty)

/-- A slash ends a name, so both sides of it are read on their own. -/
theorem names_append_slash (a b : String) : names (a ++ "/" ++ b) = names a ++ names b := by
  have htext : (a ++ "/" ++ b).toList = a.toList ++ '/' :: b.toList := by simp
  rw [names, Text.piecesAt, htext, Chars.pieces_append_cons _ (by rfl), List.map_append,
    List.filter_append]
  rfl

theorem names_slash (b : String) : names ("/" ++ b) = names b := by
  have h := names_append_slash "" b
  rwa [String.empty_append] at h

theorem names_of_isStep (h : IsStep step) : names step = [step] := by
  have hpieces : Chars.pieces (· == '/') step.toList = [step.toList] := by
    refine Chars.pieces_eq_singleton fun c hc => beq_eq_false_iff_ne.mpr ?_
    rintro rfl
    exact h.noSlash hc
  have hempty : step.isEmpty = false := by
    rw [← Bool.not_eq_true, String.isEmpty_iff]
    exact h.nonempty
  simp [names, Text.piecesAt, hpieces, hempty]

theorem isStep_of_mem_names (h : step ∈ names path) : IsStep step := by
  obtain ⟨hmem, hempty⟩ := List.mem_filter.mp h
  obtain ⟨w, hw, rfl⟩ := List.mem_map.mp hmem
  refine ⟨?_, fun hslash => ?_⟩
  · rintro hnil
    simp [hnil] at hempty
  · rw [String.toList_ofList] at hslash
    have h := Chars.not_of_mem_pieces hw '/' hslash
    cases h

/-- Empty pieces and single points of a path are no steps. -/
theorem isStep_of_mem_steps (h : step ∈ steps path) : IsStep step := by
  unfold steps at h
  split at h
  · rcases List.mem_append.mp h with h | h
    · exact isStep_of_mem_names h
    · obtain rfl := List.mem_singleton.mp h
      exact ⟨by decide, by decide⟩
  · exact isStep_of_mem_names h

/-- A list of names is read back from the path that they make. -/
theorem names_intercalate {place : Place} (h : ∀ name ∈ place, IsName name) :
    names ("/".intercalate place) = place := by
  induction place with
  | nil => rfl
  | cons name place ih =>
    rw [List.forall_mem_cons] at h
    cases place with
    | nil => rw [String.intercalate_singleton, names_of_isStep h.1.toIsStep]
    | cons next place =>
      rw [String.intercalate_cons_cons, names_append_slash, names_of_isStep h.1.toIsStep, ih h.2]
      rfl

theorem endsWith_slash_of_isStep (s : String) (h : IsStep step) :
    Text.endsWith (s ++ step) "/" = false := by
  rw [Text.endsWith, ← Bool.not_eq_true, List.isSuffixOf_iff_suffix]
  rintro ⟨front, hfront⟩
  have hnil : step.toList ≠ [] := by simpa using h.nonempty
  have hlast := congrArg List.getLast? hfront
  rw [String.toList_append, List.getLast?_append, List.getLast?_append,
    List.getLast?_eq_some_getLast hnil] at hlast
  have hslash : '/' = step.toList.getLast hnil := by simpa using hlast
  exact h.noSlash (hslash ▸ List.getLast_mem hnil)

theorem endsWith_slash_intercalate {place : Place} (s : String) (h : ∀ name ∈ place, IsName name)
    (hne : place ≠ []) : Text.endsWith (s ++ "/".intercalate place) "/" = false := by
  induction place generalizing s with
  | nil => exact absurd rfl hne
  | cons name place ih =>
    rw [List.forall_mem_cons] at h
    cases place with
    | nil =>
      rw [String.intercalate_singleton]
      exact endsWith_slash_of_isStep s h.1.toIsStep
    | cons next place =>
      rw [String.intercalate_cons_cons, ← String.append_assoc]
      exact ih _ h.2 (List.cons_ne_nil _ _)

/-- The path of a place leads there name by name. -/
theorem steps_ofPlace {place : Place} (h : ∀ name ∈ place, IsName name) (hne : place ≠ []) :
    steps (ofPlace place) = place := by
  have hsteps : steps (ofPlace place) = if Text.endsWith (ofPlace place) "/" then
    names (ofPlace place) ++ ["."] else names (ofPlace place) := rfl
  rw [hsteps, ofPlace, endsWith_slash_intercalate _ h hne, names_slash, names_intercalate h]
  rfl

theorem isAbsolute_append_of_isStep (h : IsStep step) (s : String) :
    isAbsolute (step ++ s) = false := by
  have hnil : step.toList ≠ [] := by simpa using h.nonempty
  obtain ⟨c, cs, hcs⟩ := List.exists_cons_of_ne_nil hnil
  have hc : ('/' == c) = false := by
    rw [beq_eq_false_iff_ne]
    rintro rfl
    exact h.noSlash (hcs ▸ List.mem_cons_self)
  have hslash : "/".toList = ['/'] := rfl
  rw [isAbsolute, Text.beginsWith, String.toList_append, hcs, hslash, List.cons_append,
    List.isPrefixOf_cons_cons, hc, Bool.false_and]

theorem isAbsolute_intercalate {place : Place} (h : ∀ name ∈ place, IsName name) :
    isAbsolute ("/".intercalate place) = false := by
  cases place with
  | nil => rfl
  | cons name place =>
    have hname := (h name List.mem_cons_self).toIsStep
    cases place with
    | nil =>
      rw [String.intercalate_singleton, ← String.append_empty (s := name)]
      exact isAbsolute_append_of_isStep hname _
    | cons next place =>
      rw [String.intercalate_cons_cons, String.append_assoc]
      exact isAbsolute_append_of_isStep hname _

/-- A path of names below a place is the path of the place behind them. -/
theorem join_ofPlace {place below : Place} (h : ∀ name ∈ place, IsName name)
    (hbelow : ∀ name ∈ below, IsName name) (hne : below ≠ []) :
    join (ofPlace place) ("/".intercalate below) = ofPlace (place ++ below) := by
  have hempty : (ofPlace place).isEmpty = false := by
    rw [← Bool.not_eq_true, String.isEmpty_iff, ofPlace]
    simp
  rw [join, isAbsolute_intercalate hbelow, hempty]
  cases place with
  | nil => rfl
  | cons name place =>
    rw [ofPlace, endsWith_slash_intercalate _ h (List.cons_ne_nil _ _), ofPlace,
      String.intercalate_append_of_ne_nil (List.cons_ne_nil _ _) hne]
    simp [String.append_assoc]

end Path

namespace FileTree

/-- Steps lead from a place to where a walk stops. -/
inductive Leads (t : FileTree) : Place → List String → Walk → Prop
  | arrived : Leads t p [] (.reached p)
  | here : t.node? p = some .directory → Leads t p rest w → Leads t p ("." :: rest) w
  | up : t.node? p = some .directory → Leads t p.dropLast rest w → Leads t p (".." :: rest) w
  | link : t.node? p = some .directory → step ≠ "." → step ≠ ".." →
    step.utf8ByteSize ≤ greatestName → t.node? (p ++ [step]) = some (.link target) →
    Leads t p (step :: rest) (redirect p target rest)
  | down : t.node? p = some .directory → step ≠ "." → step ≠ ".." →
    step.utf8ByteSize ≤ greatestName → t.node? (p ++ [step]) = some entry →
    (∀ target, entry ≠ .link target) → Leads t (p ++ [step]) rest w → Leads t p (step :: rest) w

variable {t : FileTree} {place : Place} {steps : List String}

theorem leads_of_walk (h : t.walk place steps = .ok w) : t.Leads place steps w := by
  induction steps generalizing place with
  | nil =>
    cases h
    exact .arrived
  | cons step rest ih =>
    unfold walk at h
    split at h
    · rename_i hdirectory
      split at h
      · subst step
        exact .here hdirectory (ih h)
      split at h
      · subst step
        exact .up hdirectory (ih h)
      split at h
      · cases h
      rename_i hhere hup hlength
      split at h
      · cases h
      · rename_i hlink
        cases h
        exact .link hdirectory hhere hup (Nat.le_of_not_lt hlength) hlink
      · rename_i entry hentry hnode
        exact .down hdirectory hhere hup (Nat.le_of_not_lt hlength) hnode
          (fun target h => hentry target h) (ih h)
    · cases h

theorem Leads.walk (h : t.Leads place steps w) : t.walk place steps = .ok w := by
  induction h with
  | arrived => rfl
  | here hdirectory _ ih =>
    unfold FileTree.walk
    simp only [hdirectory]
    exact ih
  | up hdirectory _ ih =>
    unfold FileTree.walk
    simp only [hdirectory]
    exact ih
  | link hdirectory hhere hup hlength hlink =>
    unfold FileTree.walk
    simp only [hdirectory, if_neg hhere, if_neg hup, if_neg (Nat.not_lt.mpr hlength), hlink]
  | @down _ _ entry _ _ hdirectory hhere hup hlength hnode hentry _ ih =>
    unfold FileTree.walk
    simp only [hdirectory, if_neg hhere, if_neg hup, if_neg (Nat.not_lt.mpr hlength), hnode]
    cases entry with
    | link target => exact absurd rfl (hentry target)
    | directory | file | program => exact ih

/-- A walk ends where the steps lead, up to a link that is to be followed. -/
theorem walk_eq_ok_iff : t.walk place steps = .ok w ↔ t.Leads place steps w :=
  ⟨leads_of_walk, Leads.walk⟩

/-- What a walk stops at, at a place with names and with steps to go. -/
def Walk.HasNames : Walk → Prop
  | reached place => ∀ name ∈ place, IsName name
  | redirected place steps => (∀ name ∈ place, IsName name) ∧ ∀ step ∈ steps, IsStep step

theorem redirect_hasNames (hplace : ∀ name ∈ place, IsName name)
    (hsteps : ∀ step ∈ steps, IsStep step) (target : String) :
    (redirect place target steps).HasNames := by
  refine ⟨?_, List.forall_mem_append.mpr ⟨fun _ => Path.isStep_of_mem_steps, hsteps⟩⟩
  split
  · exact fun name hname => absurd hname List.not_mem_nil
  · exact hplace

/-- Links and steps upwards are gone from the place that is reached. -/
theorem Leads.hasNames (h : t.Leads place steps w) (hplace : ∀ name ∈ place, IsName name)
    (hsteps : ∀ step ∈ steps, IsStep step) : w.HasNames := by
  induction h with
  | arrived => exact hplace
  | here _ _ ih => exact ih hplace (List.forall_mem_cons.mp hsteps).2
  | up _ _ ih =>
    refine ih (fun name hname => ?_) (List.forall_mem_cons.mp hsteps).2
    exact hplace name (List.dropLast_subset _ hname)
  | link => exact redirect_hasNames hplace (List.forall_mem_cons.mp hsteps).2 _
  | down _ hhere hup _ _ _ _ ih =>
    rw [List.forall_mem_cons] at hsteps
    refine ih (List.forall_mem_append.mpr ⟨hplace, ?_⟩) hsteps.2
    exact List.forall_mem_singleton.mpr ⟨hsteps.1, hhere, hup⟩

/-- Steps lead to a place without a link, or over a link and steps that lead there. -/
theorem follow_eq_ok_iff {links : Nat} : t.follow links place steps = .ok p ↔
    t.Leads place steps (.reached p) ∨
      ∃ fewer place' steps', links = fewer + 1 ∧
        t.Leads place steps (.redirected place' steps') ∧
        t.follow fewer place' steps' = .ok p := by
  simp only [← walk_eq_ok_iff]
  rw [follow]
  cases t.walk place steps with
  | error e => simp
  | ok w =>
    cases w with
    | reached q => simp
    | redirected place' steps' =>
      cases links with
      | zero => simp
      | succ fewer =>
        refine ⟨fun h => .inr ⟨_, _, _, rfl, rfl, h⟩, ?_⟩
        rintro (h | ⟨_, _, _, hlinks, hwalk, hfollow⟩)
        · cases h
        · cases hlinks
          cases hwalk
          exact hfollow

/-- A place that a path leads to is made of names. -/
theorem follow_names {links : Nat} (hplace : ∀ name ∈ place, IsName name)
    (hsteps : ∀ step ∈ steps, IsStep step) (h : t.follow links place steps = .ok p) :
    ∀ name ∈ p, IsName name := by
  induction links generalizing place steps with
  | zero =>
    obtain hleads | ⟨_, _, _, hlinks, _⟩ := follow_eq_ok_iff.mp h
    · exact hleads.hasNames hplace hsteps
    · cases hlinks
  | succ links ih =>
    obtain hleads | ⟨fewer, _, _, hlinks, hleads, hfollow⟩ := follow_eq_ok_iff.mp h
    · exact hleads.hasNames hplace hsteps
    · cases hlinks
      obtain ⟨hnext, hrest⟩ := hleads.hasNames hplace hsteps
      exact ih hnext hrest hfollow

/-- A path leads somewhere when it is a path to the system and its steps can be followed. -/
theorem place_eq_ok_iff {path : String} : t.place path = .ok p ↔
    '\x00' ∉ path.toList ∧ path.utf8ByteSize ≤ greatestPath ∧
      t.follow greatestLinks [] (Path.steps path) = .ok p := by
  unfold FileTree.place
  split
  · simp_all
  · split
    · rename_i hlength
      simp [Nat.not_le.mpr hlength]
    · rename_i hnul hlength
      simp_all

/-- A path leads to places with names. -/
theorem place_names {path : String} (h : t.place path = .ok p) : ∀ name ∈ p, IsName name :=
  follow_names (fun _ hname => absurd hname List.not_mem_nil)
    (fun _ => Path.isStep_of_mem_steps) (place_eq_ok_iff.mp h).2.2

end FileTree

end StorageInventory
