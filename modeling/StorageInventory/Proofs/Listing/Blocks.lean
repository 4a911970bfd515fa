import Mathlib.Data.List.Flatten
import StorageInventory.Listing

/-!
# The blocks of a listing

Which lines of a listing the blocks hold: every header, in order, and no line twice.
-/

namespace StorageInventory.Listing

/-- The lines of a block. -/
def blockLines (b : α × List α) : List α := b.1 :: b.2

variable (isHeader : α → Bool)

theorem preamble_append_blockLines (xs : List α) :
    (cut isHeader xs).preamble ++ (blocks isHeader xs).flatMap blockLines = xs :=
  preamble_append_blocks isHeader xs

/-- The headers of the blocks are the headers of the list. -/
theorem blocks_headers (xs : List α) :
    (blocks isHeader xs).map Prod.fst = xs.filter isHeader := by
  induction xs with
  | nil => rfl
  | cons x xs ih =>
    simp only [blocks] at ih
    by_cases h : isHeader x <;> simp [blocks, cut, h, ih]

theorem isHeader_of_mem_blocks (h : b ∈ blocks isHeader xs) : isHeader b.1 := by
  have hmem : b.1 ∈ (blocks isHeader xs).map Prod.fst := List.mem_map_of_mem h
  rw [blocks_headers] at hmem
  exact (List.mem_filter.mp hmem).2

theorem preamble_noHeader (xs : List α) :
    ∀ x ∈ (cut isHeader xs).preamble, isHeader x = false := by
  induction xs with
  | nil => exact fun x hx => absurd hx List.not_mem_nil
  | cons x xs ih =>
    by_cases h : isHeader x
    · simp [cut, h]
    · simpa [cut, h] using ih

theorem body_noHeader (xs : List α) (h : b ∈ blocks isHeader xs) :
    ∀ y ∈ b.2, isHeader y = false := by
  induction xs with
  | nil => cases h
  | cons x xs ih =>
    by_cases hx : isHeader x
    · simp only [blocks, cut, hx, if_true] at h
      rcases List.mem_cons.mp h with rfl | h
      · exact preamble_noHeader isHeader xs
      · exact ih h
    · exact ih (by simpa [blocks, cut, hx] using h)

theorem flatMap_blocks_sublist (xs : List α) :
    ((blocks isHeader xs).flatMap blockLines).Sublist xs := by
  conv => rhs; rw [← preamble_append_blockLines isHeader xs]
  exact List.sublist_append_right _ _

/-- Nothing stands in front of the first block of a list that begins with a header. -/
theorem flatMap_blocks (h : ∀ x ∈ xs.head?, isHeader x) :
    (cut isHeader xs).preamble = [] ∧ (blocks isHeader xs).flatMap blockLines = xs := by
  have hpreamble : (cut isHeader xs).preamble = [] := by
    cases xs with
    | nil => rfl
    | cons x xs => simp [cut, h x rfl]
  have hxs := preamble_append_blockLines isHeader xs
  rw [hpreamble, List.nil_append] at hxs
  exact ⟨hpreamble, hxs⟩

/-- A list that begins with a header, or that is empty, is cut on its own behind any other. -/
theorem blocks_append (xs : List α) (h : ∀ y ∈ ys.head?, isHeader y) :
    blocks isHeader (xs ++ ys) = blocks isHeader xs ++ blocks isHeader ys := by
  cases ys with
  | nil => simp [blocks, cut]
  | cons y ys => exact (blocks_append_cons xs ys (h y rfl)).1

theorem cut_of_noHeader (h : ∀ x ∈ xs, isHeader x = false) :
    cut isHeader xs = { preamble := xs } := by
  induction xs with
  | nil => rfl
  | cons x xs ih =>
    rw [List.forall_mem_cons] at h
    simp [cut, h.1, ih h.2]

theorem blocks_of_noHeader (h : ∀ x ∈ xs, isHeader x = false) : blocks isHeader xs = [] := by
  rw [blocks, cut_of_noHeader isHeader h]

/-- A header with lines behind it that are none is one block. -/
theorem blocks_cons (hx : isHeader x) (h : ∀ y ∈ ys, isHeader y = false) :
    blocks isHeader (x :: ys) = [(x, ys)] := by
  simp [blocks, cut, hx, cut_of_noHeader isHeader h]

/-- A block keeps to itself, whatever stands around it. -/
theorem blocks_append_block (xs : List α) (hx : isHeader x) (hbody : ∀ y ∈ body, isHeader y = false)
    (h : ∀ y ∈ ys.head?, isHeader y) :
    blocks isHeader (xs ++ x :: body ++ ys) =
      blocks isHeader xs ++ (x, body) :: blocks isHeader ys := by
  rw [List.append_assoc, blocks_append isHeader xs (by simpa using hx), blocks_append isHeader _ h,
    blocks_cons isHeader hx hbody, List.singleton_append]

/-- Blocks that stand one behind the other, with no header in front of them or inside, are the
blocks of their lines. -/
theorem blocks_flatMap (hfront : ∀ x ∈ front, isHeader x = false)
    (h : ∀ b ∈ bs, isHeader b.1 ∧ ∀ y ∈ b.2, isHeader y = false) :
    blocks isHeader (front ++ bs.flatMap blockLines) = bs := by
  have hhead : ∀ bs : List (α × List α), (∀ b ∈ bs, isHeader b.1 ∧ ∀ y ∈ b.2, isHeader y = false) →
      ∀ x ∈ (bs.flatMap blockLines).head?, isHeader x := by
    intro bs h x hx
    cases bs with
    | nil => cases hx
    | cons b bs =>
      obtain rfl : b.1 = x := Option.some.inj hx
      exact (h b List.mem_cons_self).1
  rw [blocks_append isHeader front (hhead bs h), blocks_of_noHeader isHeader hfront,
    List.nil_append]
  induction bs with
  | nil => rfl
  | cons b bs ih =>
    rw [List.forall_mem_cons] at h
    rw [List.flatMap_cons, blocks_append isHeader _ (hhead bs h.2), blockLines,
      blocks_cons isHeader h.1.1 h.1.2, ih h.2, List.singleton_append]

end StorageInventory.Listing
