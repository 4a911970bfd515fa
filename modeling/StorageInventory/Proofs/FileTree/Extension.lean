import Mathlib.Data.List.Basic
import StorageInventory.FileTree.Build
import StorageInventory.Proofs.FileTree.Paths

/-!
# Larger file trees

A tree with more in it than another (`t ≤ t'`). Paths that lead somewhere lead to the same place in
the larger tree (`FileTree.place_mono`), so what is read at a path can only change where the path
led nowhere before (`FileTree.NothingNew`).
-/

namespace StorageInventory.FileTree

/-- Whatever stands in the first tree stands in the second. -/
instance : LE FileTree where
  le t t' := ∀ p e, t.node? p = some e → t'.node? p = some e

variable {t t' : FileTree} {place : Place} {steps : List String} {path : String}

/-- Steps that lead somewhere still do when there is more in the tree. -/
theorem Leads.mono (hle : t ≤ t') (h : t.Leads place steps w) : t'.Leads place steps w := by
  induction h with
  | arrived => exact .arrived
  | here hdirectory _ ih => exact .here (hle _ _ hdirectory) ih
  | up hdirectory _ ih => exact .up (hle _ _ hdirectory) ih
  | link hdirectory hhere hup hlength hlink =>
    exact .link (hle _ _ hdirectory) hhere hup hlength (hle _ _ hlink)
  | down hdirectory hhere hup hlength hnode hentry _ ih =>
    exact .down (hle _ _ hdirectory) hhere hup hlength (hle _ _ hnode) hentry ih

theorem follow_mono {links : Nat} (hle : t ≤ t') (h : t.follow links place steps = .ok p) :
    t'.follow links place steps = .ok p := by
  induction links generalizing place steps with
  | zero =>
    obtain hleads | ⟨_, _, _, hlinks, _⟩ := follow_eq_ok_iff.mp h
    · exact follow_eq_ok_iff.mpr (.inl (hleads.mono hle))
    · cases hlinks
  | succ links ih =>
    obtain hleads | ⟨fewer, _, _, hlinks, hleads, hfollow⟩ := follow_eq_ok_iff.mp h
    · exact follow_eq_ok_iff.mpr (.inl (hleads.mono hle))
    · cases hlinks
      exact follow_eq_ok_iff.mpr (.inr ⟨_, _, _, rfl, hleads.mono hle, ih hfollow⟩)

/-- A path that leads somewhere leads there in every tree with more in it. -/
theorem place_mono (hle : t ≤ t') (h : t.place path = .ok p) : t'.place path = .ok p := by
  obtain ⟨hnul, hlength, hfollow⟩ := place_eq_ok_iff.mp h
  exact place_eq_ok_iff.mpr ⟨hnul, hlength, follow_mono hle hfollow⟩

theorem find?_eq_some_iff :
    t.find? path = some e ↔ ∃ p, t.place path = .ok p ∧ t.node? p = some e := by
  unfold find?
  cases t.place path <;> simp

theorem find?_mono (hle : t ≤ t') (h : t.find? path = some e) : t'.find? path = some e := by
  obtain ⟨p, hp, he⟩ := find?_eq_some_iff.mp h
  exact find?_eq_some_iff.mpr ⟨p, place_mono hle hp, hle p e he⟩

theorem isDirectory_eq_true_iff : t.isDirectory path = true ↔ t.find? path = some .directory := by
  unfold isDirectory
  split <;> simp_all

theorem isDirectory_mono (hle : t ≤ t') (h : t.isDirectory path = true) :
    t'.isDirectory path = true :=
  isDirectory_eq_true_iff.mpr (find?_mono hle (isDirectory_eq_true_iff.mp h))

theorem read_eq_ok_iff : t.read path = .ok text ↔ t.find? path = some (.file (some text)) := by
  unfold read find?
  cases t.place path with
  | error e => exact ⟨fun h => (nomatch h), fun h => (nomatch h)⟩
  | ok p =>
    simp only [bind, Except.bind]
    split <;> simp_all

/-- The last step of a path to a link is not followed. -/
theorem linkTarget?_eq_some_iff : t.linkTarget? path = some target ↔
    ∃ p name, t.follow greatestLinks [] (Path.steps path).dropLast = .ok p ∧
      (Path.steps path).getLast? = some name ∧ t.node? (p ++ [name]) = some (.link target) := by
  unfold linkTarget?
  dsimp only
  split
  · rename_i p name hp hname
    split <;> simp_all
  · rename_i h
    simp only [reduceCtorEq, false_iff]
    rintro ⟨p, name, hp, hname, -⟩
    exact h p name hp hname

theorem linkTarget?_mono (hle : t ≤ t') (h : t.linkTarget? path = some target) :
    t'.linkTarget? path = some target := by
  obtain ⟨p, name, hp, hname, hlink⟩ := linkTarget?_eq_some_iff.mp h
  exact linkTarget?_eq_some_iff.mpr ⟨p, name, follow_mono hle hp, hname, hle _ _ hlink⟩

/-- Where a path leads in the second tree, and the link at its end, are not new. -/
structure NothingNew (t t' : FileTree) (path : String) : Prop where
  leads : t'.find? path = some e → t.find? path = some e
  link : t'.linkTarget? path = some target → t.linkTarget? path = some target

namespace NothingNew
variable (hle : t ≤ t') (h : NothingNew t t' path)
include hle h

theorem find?_eq : t'.find? path = t.find? path :=
  Option.ext fun _ => ⟨h.leads, find?_mono hle⟩

theorem linkTarget?_eq : t'.linkTarget? path = t.linkTarget? path :=
  Option.ext fun _ => ⟨h.link, linkTarget?_mono hle⟩

theorem holds_eq : t'.holds path = t.holds path := congrArg Option.isSome (h.find?_eq hle)

theorem read_eq_ok_iff_read : t'.read path = .ok text ↔ t.read path = .ok text := by
  rw [read_eq_ok_iff, read_eq_ok_iff, h.find?_eq hle]

end NothingNew

/-! ## Where nothing new stands -/

/-- Steps that meet nothing new on their way lead where they led. -/
theorem Leads.of_old (h : t'.Leads place steps w) (hsteps : ∀ step ∈ steps, IsName step)
    (hold : ∀ q e, q <+: place ++ steps → t'.node? q = some e → t.node? q = some e) :
    t.Leads place steps w := by
  induction h with
  | arrived => exact .arrived
  | here => exact absurd rfl (hsteps _ List.mem_cons_self).notHere
  | up => exact absurd rfl (hsteps _ List.mem_cons_self).notUp
  | link hdirectory hhere hup hlength hlink =>
    refine .link (hold _ _ (List.prefix_append _ _) hdirectory) hhere hup hlength ?_
    -- A name that is taken goes from the steps to the place: the way as a whole stays the same.
    rw [List.append_cons] at hold
    exact hold _ _ (List.prefix_append _ _) hlink
  | down hdirectory hhere hup hlength hnode hentry _ ih =>
    refine .down (hold _ _ (List.prefix_append _ _) hdirectory) hhere hup hlength ?_ hentry ?_
    · rw [List.append_cons] at hold
      exact hold _ _ (List.prefix_append _ _) hnode
    · rw [List.append_cons] at hold
      exact ih (List.forall_mem_cons.mp hsteps).2 hold

/-- Without links, names lead to the place that has them. -/
theorem Leads.of_noLinks (h : t.Leads place steps w) (hsteps : ∀ step ∈ steps, IsName step)
    (hlinks : ∀ q target, q <+: place ++ steps → t.node? q ≠ some (.link target)) :
    w = .reached (place ++ steps) := by
  induction h with
  | arrived => rw [List.append_nil]
  | here => exact absurd rfl (hsteps _ List.mem_cons_self).notHere
  | up => exact absurd rfl (hsteps _ List.mem_cons_self).notUp
  | link _ _ _ _ hlink =>
    rw [List.append_cons] at hlinks
    exact absurd hlink (hlinks _ _ (List.prefix_append _ _))
  | down _ _ _ _ _ _ _ ih =>
    rw [List.append_cons] at hlinks ⊢
    exact ih (List.forall_mem_cons.mp hsteps).2 hlinks

/-- Without links on the way, a path of names ends where its names say. -/
theorem follow_of_noLinks {links : Nat} (h : t.follow links place steps = .ok p)
    (hsteps : ∀ step ∈ steps, IsName step)
    (hlinks : ∀ q target, q <+: place ++ steps → t.node? q ≠ some (.link target)) :
    p = place ++ steps ∧ t.Leads place steps (.reached p) := by
  obtain hleads | ⟨_, _, _, -, hleads, -⟩ := follow_eq_ok_iff.mp h
  · have hp := hleads.of_noLinks hsteps hlinks
    cases hp
    exact ⟨rfl, hleads⟩
  · cases hleads.of_noLinks hsteps hlinks

/-- The path of a place finds nothing new when no link and nothing new is on the way to it. -/
theorem NothingNew.of_noLinks (hne : place ≠ []) (hnames : ∀ name ∈ place, IsName name)
    (hold : ∀ q e, q <+: place → t'.node? q = some e → t.node? q = some e)
    (hlinks : ∀ q target, q <+: place → t'.node? q ≠ some (.link target)) :
    NothingNew t t' (Path.ofPlace place) := by
  constructor
  · intro e h
    obtain ⟨p, hp, he⟩ := find?_eq_some_iff.mp h
    obtain ⟨hnul, hlength, hfollow⟩ := place_eq_ok_iff.mp hp
    rw [Path.steps_ofPlace hnames hne] at hfollow
    obtain ⟨rfl, hleads⟩ := follow_of_noLinks hfollow hnames hlinks
    refine find?_eq_some_iff.mpr ⟨_, place_eq_ok_iff.mpr ⟨hnul, hlength, ?_⟩,
      hold _ _ List.prefix_rfl he⟩
    rw [Path.steps_ofPlace hnames hne]
    exact follow_eq_ok_iff.mpr (.inl (hleads.of_old hnames hold))
  · intro target h
    obtain ⟨p, name, hp, hname, hlink⟩ := linkTarget?_eq_some_iff.mp h
    rw [Path.steps_ofPlace hnames hne] at hp hname
    obtain ⟨rfl, -⟩ := follow_of_noLinks hp (fun name h => hnames name (List.dropLast_subset _ h))
      fun q target h => hlinks q target (h.trans (List.dropLast_prefix _))
    have hplace : place.dropLast ++ [name] = place := List.dropLast_append_getLast? name hname
    rw [List.nil_append, hplace] at hlink
    exact absurd hlink (hlinks _ _ List.prefix_rfl)

/-! ## More entries -/

section
variable {entries new : List (Place × Entry)} {top : Place}

theorem ofEntries_node?_append (h : ∀ x ∈ new, x.1 ≠ place) :
    (ofEntries (entries ++ new)).node? place = (ofEntries entries).node? place := by
  have hnone : new.find? (·.1 = place) = none := by simpa using h
  simp only [ofEntries, List.find?_append, hnone, Option.or_none]

/-- Later entries do not replace earlier ones. -/
theorem ofEntries_le_append : ofEntries entries ≤ ofEntries (entries ++ new) := by
  intro p e h
  unfold ofEntries at h ⊢
  dsimp only at h ⊢
  split at h
  · rename_i hroot
    rw [if_pos hroot]
    exact h
  · rename_i hroot
    obtain ⟨x, hx, rfl⟩ := Option.map_eq_some_iff.mp h
    rw [if_neg hroot, List.find?_append, hx]
    rfl

instance : ∀ e : Entry, Decidable (∀ target, e ≠ .link target)
  | .link target => .isFalse fun h => h target rfl
  | .directory | .file _ | .program _ => .isTrue fun _ h => nomatch h

/-- More entries, none of them on the way to a place or below it, are not found by paths below it
when there are no links. -/
theorem ofEntries_nothingNew (htop : top ≠ []) (hnew : ∀ x ∈ new, ¬ x.1 <+: top ∧ ¬ top <+: x.1)
    (hlinks : ∀ x ∈ entries, x.1 <+: top ∨ top <+: x.1 → ∀ target, x.2 ≠ .link target)
    (hplace : top <+: place) (hnames : ∀ name ∈ place, IsName name) :
    NothingNew (ofEntries entries) (ofEntries (entries ++ new)) (Path.ofPlace place) := by
  have hnode : ∀ q, q <+: place →
      (ofEntries (entries ++ new)).node? q = (ofEntries entries).node? q := by
    refine fun q hq => ofEntries_node?_append fun x hx => ?_
    rintro rfl
    exact (List.prefix_or_prefix_of_prefix hq hplace).elim (hnew x hx).1 (hnew x hx).2
  refine NothingNew.of_noLinks ?_ hnames (fun q e hq h => hnode q hq ▸ h) fun q target hq h => ?_
  · rintro rfl
    exact htop (List.prefix_nil.mp hplace)
  · rw [hnode q hq] at h
    unfold ofEntries at h
    dsimp only at h
    split at h
    · cases h
    · obtain ⟨x, hx, hlink⟩ := Option.map_eq_some_iff.mp h
      obtain rfl : x.1 = q := by simpa using List.find?_some hx
      exact hlinks x (List.mem_of_find?_eq_some hx)
        (List.prefix_or_prefix_of_prefix hq hplace) target hlink

end

end StorageInventory.FileTree
