import Mathlib.Algebra.GroupWithZero.Nat
import Mathlib.Data.List.Forall2
import StorageInventory.Proofs.Text.Lines
import StorageInventory.Table

/-!
# The layout of a table

Each column is as wide as the widest text in it (`widths_getElem?`), and the marks of every line of
a table stand at the same places (`Ruled`). Main statement: `ofRows_laid`.
-/

namespace StorageInventory.Table
variable {ws : List Nat} {mark : Char}

/-! ## Widths -/

theorem length_widen {row : List String} (h : row.length = ws.length) :
    (widen ws row).length = ws.length := by
  rw [widen, List.length_zipWith, h, Nat.min_self]

/-- Rows with a cell for each column leave the number of columns as it is. -/
theorem length_foldl_widen {rows : List (List String)} (h : ∀ row ∈ rows, row.length = ws.length) :
    (rows.foldl widen ws).length = ws.length := by
  induction rows generalizing ws with
  | nil => rfl
  | cons row rows ih =>
    rw [List.forall_mem_cons] at h
    have hwiden := length_widen h.1
    rw [List.foldl_cons, ih (hwiden ▸ h.2), hwiden]

/-- The texts that rows have in column `i`. -/
def column (rows : List (List String)) (i : Nat) : List String := rows.filterMap (·[i]?)

theorem column_cons (row : List String) (rows : List (List String)) (i : Nat) :
    column (row :: rows) i = row[i]?.toList ++ column rows i := by
  cases h : row[i]? <;> simp [column, h]

/-- Widening by rows with a cell for each column takes the greatest length in each column. -/
theorem foldl_widen_getElem? {rows : List (List String)}
    (h : ∀ row ∈ rows, row.length = ws.length) (i : Nat) :
    (rows.foldl widen ws)[i]? = (ws[i]?.toList ++ (column rows i).map String.length).max? := by
  induction rows generalizing ws with
  | nil => cases hw : ws[i]? <;> simp [hw, column]
  | cons row rows ih =>
    rw [List.forall_mem_cons] at h
    have hwiden := length_widen h.1
    rw [List.foldl_cons, ih (hwiden ▸ h.2), column_cons]
    by_cases hi : i < ws.length
    · have hrow : i < row.length := h.1 ▸ hi
      have hmax : (widen ws row)[i]? = some (max ws[i] row[i].length) := by
        rw [widen, List.getElem?_zipWith, List.getElem?_eq_getElem hi,
          List.getElem?_eq_getElem hrow]
      rw [hmax, List.getElem?_eq_getElem hi, List.getElem?_eq_getElem hrow]
      exact List.max?_cons'.trans List.max?_cons'.symm
    · have hnone : ws.length ≤ i := Nat.le_of_not_lt hi
      rw [List.getElem?_eq_none (hwiden ▸ hnone), List.getElem?_eq_none hnone,
        List.getElem?_eq_none (h.1 ▸ hnone)]
      rfl

/-- Every row has a cell for each header. -/
def Rectangular (t : Table) : Prop := ∀ row ∈ t.rows, row.length = t.headers.length

/-- Rows with another number of cells are dropped, so those that are left fit the headers. -/
theorem ofRows_rectangular (headers : List String) (pushed : List (List String)) :
    (ofRows headers pushed).Rectangular := by
  intro row hrow
  rw [rows_ofRows_eq_filter, List.mem_filter, decide_eq_true_eq] at hrow
  rw [headers_ofRows, hrow.2]

section
variable {t : Table} (h : t.Rectangular)
include h

theorem length_widths : t.widths.length = t.headers.length := by
  rw [widths, length_foldl_widen (by simpa [Rectangular] using h), List.length_map]

theorem length_of_mem {row : List String} (hrow : row ∈ t.headers :: t.rows) :
    row.length = t.widths.length := by
  rw [length_widths h]
  rcases List.mem_cons.mp hrow with rfl | hrow
  · rfl
  · exact h row hrow

/-- A column is as wide as the longest text in it, its header among them. -/
theorem widths_getElem? (i : Nat) :
    t.widths[i]? = ((column (t.headers :: t.rows) i).map String.length).max? := by
  rw [widths, foldl_widen_getElem? (by simpa [Rectangular] using h), column_cons, List.getElem?_map]
  cases hi : t.headers[i]? <;> simp

/-- Every cell fits its column. -/
theorem length_le_widths {row : List String} {cell : String} {i : Nat}
    (hrow : row ∈ t.headers :: t.rows) (hcell : row[i]? = some cell)
    (hw : t.widths[i]? = some w) : cell.length ≤ w := by
  rw [widths_getElem? h, List.max?_eq_some_iff] at hw
  exact hw.2 _ (List.mem_map_of_mem (List.mem_filterMap.mpr ⟨row, hrow, hcell⟩))

end

/-! ## Marks -/

/-- Where the mark behind the first `k` columns stands: a column takes its width, a blank on each
side, and the mark in front of it. -/
def separator (ws : List Nat) (k : Nat) : Nat := ((ws.take k).map (· + 3)).sum

theorem separator_succ (w : Nat) (ws : List Nat) (k : Nat) :
    separator (w :: ws) (k + 1) = w + 3 + separator ws k := rfl

/-- What stands between the marks around column `k`. -/
def between (ws : List Nat) (cs : List Char) (k : Nat) : List Char :=
  cs.extract (separator ws k + 1) (separator ws (k + 1))

/-- A line in which marks stand at the separators, and fillings between them. -/
structure Ruled (ws : List Nat) (mark : Char) (fillings : List (List Char)) (cs : List Char) :
    Prop where
  length_eq : cs.length = separator ws ws.length + 1
  mark_at : ∀ k ≤ ws.length, cs[separator ws k]? = some mark
  filling_at : ∀ k < ws.length, fillings[k]? = some (between ws cs k)

/-- A line of fillings with a mark behind each, and one in front. -/
def ruledLine (mark : Char) (fillings : List (List Char)) : List Char :=
  mark :: fillings.flatMap (· ++ [mark])

theorem ruledLine_cons (mark : Char) (filling : List Char) (fillings : List (List Char)) :
    ruledLine mark (filling :: fillings) = (mark :: filling) ++ ruledLine mark fillings := by
  simp [ruledLine]

/-- A line of fillings is ruled by columns that its fillings fill. -/
theorem ruledLine_ruled (h : List.Forall₂ (fun w filling => filling.length = w + 2) ws fillings) :
    Ruled ws mark fillings (ruledLine mark fillings) := by
  -- The columns behind the first one are a line of their own, moved by the width of the first.
  induction h with
  | nil =>
    refine ⟨rfl, ?_, ?_⟩
    · intro k hk
      obtain rfl := Nat.le_zero.mp hk
      rfl
    · exact fun k hk => absurd hk (Nat.not_lt_zero k)
  | @cons w filling ws fillings hw _ ih =>
    have hfront : (mark :: filling).length = w + 3 := by rw [List.length_cons, hw]
    refine ⟨?_, ?_, ?_⟩
    · rw [ruledLine_cons, List.length_append, hfront, ih.length_eq, List.length_cons,
        separator_succ, ← Nat.add_assoc]
    · intro k hk
      cases k with
      | zero => rfl
      | succ k =>
        rw [ruledLine_cons, separator_succ, ← hfront,
          List.getElem?_append_right (Nat.le_add_right ..), Nat.add_sub_cancel_left]
        exact ih.mark_at k (Nat.le_of_succ_le_succ hk)
    · intro k hk
      cases k with
      | zero =>
        have hbetween : between (w :: ws) (ruledLine mark (filling :: fillings)) 0 =
            (filling ++ ruledLine mark fillings).take (w + 2) := by
          rw [ruledLine_cons, between, separator_succ]
          rfl
        rw [hbetween, List.take_left' hw, List.getElem?_cons_zero]
      | succ k =>
        rw [List.getElem?_cons_succ, ih.filling_at k (Nat.lt_of_succ_lt_succ hk), ruledLine_cons,
          between, between, separator_succ, separator_succ, ← hfront, Nat.add_assoc, List.extract,
          List.extract, List.drop_length_add_append, Nat.add_sub_add_left]

theorem mem_ruledLine {c : Char} {fillings : List (List Char)} :
    c ∈ ruledLine mark fillings → c = mark ∨ ∃ filling ∈ fillings, c ∈ filling := by
  intro h
  rcases List.mem_cons.mp h with rfl | h
  · exact .inl rfl
  · obtain ⟨filling, hfilling, hc⟩ := List.mem_flatMap.mp h
    rcases List.mem_append.mp hc with hc | hc
    · exact .inr ⟨filling, hfilling, hc⟩
    · exact .inl (List.mem_singleton.mp hc)

theorem Ruled.getLast? (h : Ruled ws mark fillings cs) : cs.getLast? = some mark := by
  rw [List.getLast?_eq_getElem?, h.length_eq]
  exact h.mark_at ws.length (Nat.le_refl _)

/-! ## Lines -/

/-- What stands between the marks of a border. -/
def dashes (w : Nat) : List Char := List.replicate (w + 2) '-'

/-- What stands between the marks of a row: the cell, with spaces behind it up to the width of the
column, and a space on each side. -/
def cellSpace (w : Nat) (cell : String) : List Char :=
  ' ' :: (cell.toList ++ List.replicate (w - cell.length) ' ') ++ [' ']

/-- A cell fills its column, with a blank on each side. -/
theorem length_cellSpace {cell : String} (h : cell.length ≤ w) :
    (cellSpace w cell).length = w + 2 := by
  simp [cellSpace, String.length_toList]
  omega

/-- A line of a table, which shows a row or is a border. -/
def Line (ws : List Nat) : Option (List String) → String → Prop
  | some row, line => Ruled ws '|' (List.zipWith cellSpace ws row) line.toList
  | none, line => Ruled ws '+' (ws.map dashes) line.toList

/-- A border is a line of dashes with crossings for marks. -/
theorem border_toList (ws : List Nat) :
    (border ws).toList = ruledLine '+' (ws.map dashes) := by
  simp [border, ruledLine, dashes, List.flatMap_map]

/-- A row is a line of its cells with bars for marks. -/
theorem rowText_toList (ws : List Nat) (row : List String) :
    (rowText ws row).toList = ruledLine '|' (List.zipWith cellSpace ws row) := by
  have hcell (w : Nat) (cell : String) :
      " " ++ pad w cell ++ " |" = String.ofList (cellSpace w cell ++ ['|']) := by
    rw [← String.toList_inj]
    simp [pad, cellSpace]
  have hcells : List.zipWith (fun w cell => " " ++ pad w cell ++ " |") ws row =
      (List.zipWith cellSpace ws row).map fun filling => String.ofList (filling ++ ['|']) := by
    simp only [hcell, List.map_zipWith]
  rw [rowText, hcells]
  generalize List.zipWith cellSpace ws row = fillings
  simp [ruledLine, List.flatMap_map]

theorem border_line (ws : List Nat) : Line ws none (border ws) := by
  rw [Line, border_toList]
  refine ruledLine_ruled ?_
  rw [List.forall₂_map_right_iff, List.forall₂_same]
  exact fun w _ => List.length_replicate

section
variable {t : Table} (h : t.Rectangular)
include h

/-- The cells of a row, and the headers, fill the columns of a table. -/
theorem cellSpace_fits {row : List String} (hrow : row ∈ t.headers :: t.rows) :
    List.Forall₂ (fun w filling => filling.length = w + 2) t.widths
      (List.zipWith cellSpace t.widths row) := by
  have hlength := length_of_mem h hrow
  rw [List.forall₂_iff_get]
  refine ⟨by simp [hlength], fun i hi hi' => ?_⟩
  have hrowi : i < row.length := hlength ▸ hi
  have hle := length_le_widths h hrow (List.getElem?_eq_getElem hrowi) (List.getElem?_eq_getElem hi)
  rw [List.get_eq_getElem, List.get_eq_getElem, List.getElem_zipWith, length_cellSpace hle]

/-- A row is printed as a line that shows it. -/
theorem rowText_line {row : List String} (hrow : row ∈ t.headers :: t.rows) :
    Line t.widths (some row) (rowText t.widths row) := by
  rw [Line, rowText_toList]
  exact ruledLine_ruled (cellSpace_fits h hrow)

/-- The lines of a table are a border, the headers, a border, the rows and a border. -/
theorem lines_line :
    List.Forall₂ (Line t.widths) ([none, some t.headers, none] ++ t.rows.map some ++ [none])
      t.lines := by
  have hborder := border_line t.widths
  have hheaders := rowText_line h List.mem_cons_self
  refine List.rel_append (List.rel_append ?_ ?_) (.cons hborder .nil)
  · exact .cons hborder (.cons hheaders (.cons hborder .nil))
  · rw [List.forall₂_map_left_iff, List.forall₂_map_right_iff, List.forall₂_same]
    exact fun row hrow => rowText_line h (List.mem_cons_of_mem _ hrow)

end

/-- A text shows rows: the headers between borders, the rows behind them and a border, in columns of
the same widths, each line ended. -/
def Shows (headers : List String) (rows : List (List String)) (text : String) : Prop :=
  ∃ ws lines, text = String.join (lines.map (· ++ "\n")) ∧
    List.Forall₂ (Line ws) ([none, some headers, none] ++ rows.map some ++ [none]) lines

theorem text_shows {t : Table} (h : t.Rectangular) : Shows t.headers t.rows t.text :=
  ⟨t.widths, t.lines, rfl, lines_line h⟩

theorem notMem_border (ws : List Nat) : '\n' ∉ (border ws).toList := by
  rw [border_toList]
  intro h
  rcases mem_ruledLine h with h | ⟨filling, hfilling, hc⟩
  · exact absurd h (by decide)
  · obtain ⟨w, -, rfl⟩ := List.mem_map.mp hfilling
    exact absurd (List.eq_of_mem_replicate hc) (by decide)

/-- A line of a table is broken only by a cell that is. -/
theorem notMem_rowText {row : List String} (h : ∀ cell ∈ row, '\n' ∉ cell.toList) (ws : List Nat) :
    '\n' ∉ (rowText ws row).toList := by
  rw [rowText_toList, ← List.map_uncurry_zip_eq_zipWith]
  intro hc
  rcases mem_ruledLine hc with hc | ⟨filling, hfilling, hc⟩
  · exact absurd hc (by decide)
  · obtain ⟨⟨w, cell⟩, hcell, rfl⟩ := List.mem_map.mp hfilling
    have hnotMem := h cell (List.of_mem_zip hcell).2
    simp [cellSpace, hnotMem] at hc

theorem forall_mem_lines {t : Table} {p : String → Prop} (hborder : p (border t.widths))
    (hrow : ∀ row ∈ t.headers :: t.rows, p (rowText t.widths row)) : ∀ l ∈ t.lines, p l := by
  rw [List.forall_mem_cons] at hrow
  simp only [lines, List.forall_mem_append, List.forall_mem_cons, List.forall_mem_map]
  exact ⟨⟨⟨hborder, hrow.1, hborder, List.forall_mem_nil _⟩, hrow.2⟩, hborder,
    List.forall_mem_nil _⟩

/-- The text of a table is read back as its lines when no cell and no header is broken. -/
theorem lines_text {t : Table} (h : t.Rectangular)
    (hbreak : ∀ row ∈ t.headers :: t.rows, ∀ cell ∈ row, '\n' ∉ cell.toList) :
    Text.lines t.text = t.lines := by
  refine Text.lines_join_eq (forall_mem_lines ⟨notMem_border _, ?_⟩ fun row hrow =>
    ⟨notMem_rowText (hbreak row hrow) _, ?_⟩)
  · rw [Ruled.getLast? (border_line t.widths)]
    decide
  · rw [Ruled.getLast? (rowText_line h hrow)]
    decide

/-! ## Tables of pushed rows -/

/-- What a table is after rows were pushed, and how it is printed. -/
structure Laid (headers : List String) (pushed : List (List String)) (t : Table) : Prop where
  headers_eq : t.headers = headers
  /-- A row with another number of cells changes nothing. -/
  push_eq : ∀ row, row.length ≠ headers.length → t.push row = t
  rows_eq : t.rows = pushed.filter (·.length = headers.length)
  widths_eq : ∀ i, t.widths[i]? = ((column (headers :: t.rows) i).map String.length).max?
  lines_length : t.lines.length = t.size + 4
  lines_line : List.Forall₂ (Line t.widths)
    ([none, some headers, none] ++ t.rows.map some ++ [none]) t.lines
  text_lines : (∀ header ∈ headers, '\n' ∉ header.toList) → Text.lines t.text = t.lines

/-- A table of rows without line breaks is laid out; a header with one is left open. -/
theorem ofRows_laid (headers : List String) (pushed : List (List String))
    (h : ∀ row ∈ pushed, ∀ cell ∈ row, '\n' ∉ cell.toList) :
    Laid headers pushed (ofRows headers pushed) := by
  have hheaders := headers_ofRows headers pushed
  have hrows := rows_ofRows_eq_filter headers pushed
  have hrectangular := ofRows_rectangular headers pushed
  have hwidths := widths_getElem? hrectangular
  have hlines := lines_line hrectangular
  rw [hheaders] at hwidths hlines
  constructor
  · exact hheaders
  · intro row hrow
    exact if_neg (hheaders.symm ▸ hrow)
  · exact hrows
  · exact hwidths
  · simp [lines, size]
  · exact hlines
  · intro hbreak
    refine lines_text hrectangular ?_
    rw [hheaders, hrows, List.forall_mem_cons]
    exact ⟨hbreak, fun row hrow => h row (List.mem_of_mem_filter hrow)⟩

/-- A row of one cell is dropped. -/
theorem ofRows_laid_dropped :
    (∀ row ∈ [["sdα", "1 TB"], ["lost"]], ∀ cell ∈ row, '\n' ∉ cell.toList) ∧
    Text.lines (ofRows ["диск", "size"] [["sdα", "1 TB"], ["lost"]]).text =
      ["+------+------+", "| диск | size |", "+------+------+", "| sdα  | 1 TB |",
        "+------+------+"] := by
  have hcells : ∀ row ∈ [["sdα", "1 TB"], ["lost"]], ∀ cell ∈ row, '\n' ∉ cell.toList := by decide
  refine ⟨hcells, ?_⟩
  rw [(ofRows_laid ["диск", "size"] _ hcells).text_lines (by decide)]
  decide

/-- A header is printed as it is, and one with a line break takes two lines. -/
theorem lines_of_broken_header :
    (Text.lines (ofRows ["a\nb"] []).text).length ≠ (ofRows ["a\nb"] []).size + 4 := by
  decide

end StorageInventory.Table
