import Docwright.Proofs.Table.Inserts

/-!
Records in a table that has all its cells. What a job writes is told row by row and column by column
(`inserts_of_gridded`): every value that is not empty and that there is a column for, in its own cell.
-/

namespace Docwright.Table

open Snapshot (Table)
open Edit Job

/-- The table has `rows` rows of `columns` cells each, and every cell has its place. -/
def Gridded (t : Table) (rows columns : Nat) (place : Nat → Nat → Int) : Prop :=
  t.cells = (List.range rows).map fun row => (List.range columns).map fun column =>
    some (place row column)

/-- The values of a record that are not empty, each at the place of its column. Those past the last
column are left out. -/
def placed (place : Nat → Int) (columns : Nat) (record : List String) : List Insert :=
  ((List.range columns).map fun column => (place column, record.getD column "")).filter (·.2 ≠ "")

/-- All records, each in the row that it has the number of. -/
def placedRows (place : Nat → Nat → Int) (columns : Nat) (records : List (List String)) :
    List Insert :=
  (List.range records.length).flatMap fun row => placed (place row) columns (records.getD row [])

theorem placed_nil (place : Nat → Int) (columns : Nat) : placed place columns [] = [] := by
  simp [placed]

theorem rowEntries_places (place : Nat → Int) (columns : Nat) (record : List String) :
    rowEntries ((List.range columns).map fun column => some (place column)) record =
      (List.range columns).map fun column => (place column, record.getD column "") := by
  induction columns generalizing place record with
  | zero => rfl
  | succ columns ih =>
    have first : record.headD "" = record.getD 0 "" := by cases record <;> rfl
    have later (column : Nat) : record.tail.getD column "" = record.getD (column + 1) "" := by
      cases record <;> simp
    rw [List.range_succ_eq_map, List.map_cons, List.map_cons, List.map_map, List.map_map, rowEntries,
      first]
    refine congrArg _ ((ih (fun column => place (column + 1)) record.tail).trans ?_)
    exact List.map_congr_left fun column _ => by rw [later]; rfl

theorem entries_rows (cells : Nat → List (Option Int)) (rows : Nat) (grid : List (List String)) :
    entries ((List.range rows).map cells) grid =
      (List.range rows).flatMap fun row => rowEntries (cells row) (grid.getD row []) := by
  induction rows generalizing cells grid with
  | zero => rfl
  | succ rows ih =>
    have first : grid.headD [] = grid.getD 0 [] := by cases grid <;> rfl
    have later (row : Nat) : grid.tail.getD row [] = grid.getD (row + 1) [] := by
      cases grid <;> simp
    rw [List.range_succ_eq_map, List.map_cons, List.map_map, entries, ih, first, List.flatMap_cons,
      List.flatMap_map]
    simp only [Function.comp_apply, later]

section

variable {t : Table} {rows columns : Nat} {place : Nat → Nat → Int}
  (gridded : Gridded t rows columns place)

include gridded

theorem inserts_of_gridded {j : Job} (enough : j.grid.length = rows) :
    j.headerInserts t ++ j.dataInserts t = placedRows place columns j.grid := by
  rw [inserts_eq, gridded, entries_rows, List.filter_flatMap, placedRows, enough]
  exact List.flatMap_congr fun row _ => by rw [rowEntries_places, placed]

theorem headerInserts_of_gridded (filled : 0 < rows) (j : Job) :
    j.headerInserts t = placed (place 0) columns j.headers := by
  have first : t.cells[0]?.getD [] = (List.range columns).map fun column => some (place 0 column) := by
    rw [gridded, List.getElem?_map, List.getElem?_range filled]
    rfl
  rw [headerInserts, rowInserts_eq, first, List.drop_zero, rowEntries_places, placed]

end

end Docwright.Table
