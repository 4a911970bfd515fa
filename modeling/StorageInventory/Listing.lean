import StorageInventory.Text.Search
import StorageInventory.Logger

/-!
# Listings

The output of a tool is a list of lines, most of them a key and a value, that header lines cut into
blocks: one block for each controller, volume or drive. Main statement: a list that begins with a
header is cut on its own, whatever stands in front of it.
-/

namespace StorageInventory.Listing

/-- What stands in front of the first header, and each header with what follows it up to the
next. -/
structure Cut (α : Type) where
  preamble : List α := []
  blocks : List (α × List α) := []

/-- Cuts a list in front of each header. -/
def cut (isHeader : α → Bool) : List α → Cut α
  | [] => {}
  | x :: xs =>
    let rest := cut isHeader xs
    if isHeader x then { blocks := (x, rest.preamble) :: rest.blocks }
    else { rest with preamble := x :: rest.preamble }

/-- A cut loses nothing: what stands in front of the first header and the blocks behind it are the
list. -/
theorem preamble_append_blocks (isHeader : α → Bool) (xs : List α) :
    (cut isHeader xs).preamble ++ (cut isHeader xs).blocks.flatMap (fun b => b.1 :: b.2) = xs := by
  induction xs with
  | nil => rfl
  | cons x xs ih => by_cases h : isHeader x <;> simp [cut, h, ih]

/-- The blocks of a list; what stands in front of the first header belongs to none. -/
def blocks (isHeader : α → Bool) (xs : List α) : List (α × List α) := (cut isHeader xs).blocks

/-- A header cuts a list whatever stands in front of it. -/
theorem blocks_append_cons {isHeader : α → Bool} (xs : List α) {y : α} (ys : List α)
    (h : isHeader y) :
    blocks isHeader (xs ++ y :: ys) = blocks isHeader xs ++ blocks isHeader (y :: ys) ∧
      (cut isHeader (xs ++ y :: ys)).preamble = (cut isHeader xs).preamble := by
  induction xs with
  | nil => simp [blocks, cut, h]
  | cons x xs ih =>
    simp only [blocks] at ih
    by_cases hx : isHeader x <;> simp [blocks, cut, hx, ih]

/-- The keys and values of those lines that have them. -/
def fields (mark : String) (lines : List String) : List (String × String) :=
  lines.filterMap (Text.keyValue? · mark)

/-- The items in front of the first one that satisfies `p`, and those behind it. -/
def around (p : α → Bool) (xs : List α) : List α × List α :=
  (xs.takeWhile (!p ·), (xs.dropWhile (!p ·)).drop 1)

/-- Keeps the first item of each key that `seen` does not hold, with a note for each item that is
dropped. -/
def keepFirst [DecidableEq κ] (log : Logger) (key : α → κ) (keyText : κ → String) :
    List κ → List α → Traced (List α)
  | _, [] => pure []
  | seen, x :: xs =>
    if key x ∈ seen then do
      log.debug ("duplicate key " ++ keyText (key x) ++ " dropped, keeping the first")
      keepFirst log key keyText seen xs
    else do
      let rest ← keepFirst log key keyText (key x :: seen) xs
      return x :: rest

end StorageInventory.Listing
