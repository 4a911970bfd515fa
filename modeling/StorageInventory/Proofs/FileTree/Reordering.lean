import StorageInventory.FileTree.Basic

/-!
# Trees that list in another order

A directory gives its names in some order. Where paths lead, and what is read there, does not depend
on it; a list has the same names in another order (`Reordered.list`).
-/

namespace StorageInventory.FileTree

/-- Two trees in which the same things stand, and whose directories list the same names, each in an
order of its own. -/
structure Reordered (t t' : FileTree) : Prop where
  node?_eq : t'.node? = t.node?
  names : ∀ place, (t'.names place).Perm (t.names place)

namespace Reordered
variable {t t' : FileTree}

/-- Steps from place to place do not list any directory. -/
theorem walk_eq (h : Reordered t t') (place : Place) (steps : List String) :
    t'.walk place steps = t.walk place steps := by
  induction steps generalizing place with
  | nil => rfl
  | cons step steps ih => simp only [walk, h.node?_eq, ih]

/-- Nor does following links, however many of them there are. -/
theorem follow_eq (h : Reordered t t') (links : Nat) (place : Place) (steps : List String) :
    t'.follow links place steps = t.follow links place steps := by
  induction links generalizing place steps with
  | zero =>
    unfold follow
    rw [h.walk_eq]
  | succ links ih =>
    unfold follow
    rw [h.walk_eq]
    split <;> simp only [ih]

theorem place_eq (h : Reordered t t') : t'.place = t.place := by
  funext path
  simp only [place, h.follow_eq]

theorem find?_eq (h : Reordered t t') : t'.find? = t.find? := by
  funext path
  simp only [find?, h.place_eq, h.node?_eq]

theorem holds_eq (h : Reordered t t') : t'.holds = t.holds := by
  funext path
  simp only [holds, h.find?_eq]

theorem isDirectory_eq (h : Reordered t t') : t'.isDirectory = t.isDirectory := by
  funext path
  simp only [isDirectory, h.find?_eq]

theorem canonical_eq (h : Reordered t t') : t'.canonical = t.canonical := by
  funext path
  simp only [canonical, h.place_eq]

theorem read_eq (h : Reordered t t') : t'.read = t.read := by
  funext path
  simp only [read, h.place_eq, h.node?_eq]

theorem linkTarget?_eq (h : Reordered t t') : t'.linkTarget? = t.linkTarget? := by
  funext path
  simp only [linkTarget?, h.follow_eq, h.node?_eq]

/-- A directory lists the same names. -/
theorem list (h : Reordered t t') (path : String) : (t'.list path).Perm (t.list path) := by
  unfold FileTree.list
  rw [h.place_eq]
  cases t.place path with
  | error e => exact .refl _
  | ok place => exact h.names place

end Reordered

end StorageInventory.FileTree
