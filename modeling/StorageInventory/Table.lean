/-!
# Text tables

A table of fixed columns, each as wide as its widest cell, between borders of dashes and bars.
-/

namespace StorageInventory

/-- A table of rows that have as many cells as there are headers. -/
structure Table where
  headers : List String
  rows : List (List String) := []

namespace Table

/-- Appends a row; one with the wrong number of cells is dropped. -/
def push (t : Table) (row : List String) : Table :=
  if row.length = t.headers.length then { t with rows := t.rows ++ [row] } else t

/-- A table of the given rows. -/
def ofRows (headers : List String) (rows : List (List String)) : Table :=
  rows.foldl push { headers }

theorem headers_push (t : Table) (row : List String) : (t.push row).headers = t.headers := by
  unfold push
  split <;> rfl

theorem rows_push (t : Table) (row : List String) :
    (t.push row).rows = t.rows ++ [row].filter (·.length = t.headers.length) := by
  unfold push
  split
  next h => rw [List.filter_cons_of_pos (by simpa using h), List.filter_nil]
  next h => rw [List.filter_cons_of_neg (by simpa using h), List.filter_nil, List.append_nil]

theorem headers_ofRows (headers : List String) (rows : List (List String)) :
    (ofRows headers rows).headers = headers := by
  have hfold (t : Table) : (rows.foldl push t).headers = t.headers := by
    induction rows generalizing t with
    | nil => rfl
    | cons row rows ih => rw [List.foldl_cons, ih, headers_push]
  exact hfold _

/-- A table keeps the rows that have as many cells as there are headers. -/
theorem rows_ofRows_eq_filter (headers : List String) (rows : List (List String)) :
    (ofRows headers rows).rows = rows.filter (·.length = headers.length) := by
  have hfold (t : Table) :
      (rows.foldl push t).rows = t.rows ++ rows.filter (·.length = t.headers.length) := by
    induction rows generalizing t with
    | nil => simp
    | cons row rows ih =>
      rw [List.foldl_cons, ih, headers_push, rows_push, List.append_assoc, ← List.filter_append,
        List.singleton_append]
  exact hfold _

theorem rows_ofRows {headers : List String} {cells : List (List String)}
    (h : ∀ row ∈ cells, row.length = headers.length) : (ofRows headers cells).rows = cells := by
  rw [rows_ofRows_eq_filter, List.filter_eq_self]
  exact fun row hrow => decide_eq_true (h row hrow)

/-- The number of rows. -/
def size (t : Table) : Nat := t.rows.length

/-- Whether there are no rows. -/
def isEmpty (t : Table) : Bool := t.rows.isEmpty

/-- The widths of columns that hold the given widths and the cells of a row. -/
def widen (widths : List Nat) (row : List String) : List Nat :=
  List.zipWith (fun width cell => max width cell.length) widths row

/-- The width of each column. -/
def widths (t : Table) : List Nat := t.rows.foldl widen (t.headers.map String.length)

/-- A cell with spaces behind it up to a width. -/
def pad (width : Nat) (cell : String) : String :=
  cell ++ String.ofList (List.replicate (width - cell.length) ' ')

/-- A border between columns of the given widths. -/
def border (widths : List Nat) : String :=
  "+" ++ String.join (widths.map fun w => String.ofList (List.replicate (w + 2) '-') ++ "+")

/-- A row in columns of the given widths. -/
def rowText (widths : List Nat) (row : List String) : String :=
  "|" ++ String.join (List.zipWith (fun w cell => " " ++ pad w cell ++ " |") widths row)

/-- The lines of a table. -/
def lines (t : Table) : List String :=
  let widths := t.widths
  [border widths, rowText widths t.headers, border widths] ++ t.rows.map (rowText widths) ++
    [border widths]

/-- The table, each line ended. -/
def text (t : Table) : String := String.join (t.lines.map (· ++ "\n"))

end Table

end StorageInventory
