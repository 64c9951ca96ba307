import Docwright.Proofs.Replay.Spread
import Mathlib.Data.List.Nodup
import Mathlib.Data.List.ReduceOption

/-!
What a job writes into its table: the values of its grid at the positions of the cells, as far as
there are both. Where positions ascend from cell to cell, the batch goes through them from the last
to the first.
-/

namespace Docwright.Table

open Snapshot (Table)
open Edit Replay

/-- The positions of the cells that have one, row by row. -/
def positions (t : Table) : List Int :=
  t.cells.flatten.reduceOption

namespace Job

/-- The rows of a job as they are to stand in the table. -/
def grid (j : Job) : List (List String) :=
  if j.headers.isEmpty then j.data else j.headers :: j.data

/-- The value for a cell, empty where there is none. -/
def valueAt (j : Job) (row column : Nat) : String :=
  (j.grid[row]?.bind (·[column]?)).getD ""

def rowEntries : List (Option Int) → List String → List Insert
  | [], _ => []
  | none :: cells, values => rowEntries cells values.tail
  | some i :: cells, values => (i, values.headD "") :: rowEntries cells values.tail

/-- Every cell that has a position, with its value. -/
def entries : List (List (Option Int)) → List (List String) → List Insert
  | [], _ => []
  | cells :: rows, grid => rowEntries cells (grid.headD []) ++ entries rows grid.tail

theorem rowEntries_positions (cells : List (Option Int)) (values : List String) :
    (rowEntries cells values).map (·.1) = cells.reduceOption := by
  induction cells generalizing values with
  | nil => rfl
  | cons cell cells ih =>
    cases cell with
    | none => rw [rowEntries, ih, List.reduceOption_cons_of_none]
    | some i => rw [rowEntries, List.map_cons, ih, List.reduceOption_cons_of_some]

theorem entries_positions (rows : List (List (Option Int))) (grid : List (List String)) :
    (entries rows grid).map (·.1) = rows.flatten.reduceOption := by
  induction rows generalizing grid with
  | nil => rfl
  | cons cells rows ih =>
    rw [entries, List.map_append, rowEntries_positions, ih, List.flatten_cons,
      List.reduceOption_append]

theorem mem_rowEntries {cells : List (Option Int)} {values : List String} {column : Nat} {p : Int}
    (h : cells[column]?.join = some p) : (p, values[column]?.getD "") ∈ rowEntries cells values := by
  induction cells generalizing values column with
  | nil => simp at h
  | cons cell cells ih =>
    have value : values.headD "" = values[0]?.getD "" := by cases values <;> rfl
    have later (c : Nat) : values[c + 1]? = values.tail[c]? := by cases values <;> simp
    cases column with
    | zero =>
      have here : cell = some p := by simpa using h
      rw [here, rowEntries, value]
      exact List.mem_cons_self
    | succ column =>
      have rest := @ih values.tail column (by simpa using h)
      rw [← later] at rest
      cases cell with
      | none => exact rest
      | some i => exact List.mem_cons_of_mem _ rest

theorem mem_entries {rows : List (List (Option Int))} {grid : List (List String)}
    {row column : Nat} {p : Int} (h : (rows[row]?.bind (·[column]?)).join = some p) :
    (p, (grid[row]?.bind (·[column]?)).getD "") ∈ entries rows grid := by
  induction rows generalizing grid row with
  | nil => simp at h
  | cons cells rows ih =>
    cases row with
    | zero =>
      have here : (p, (grid.headD [])[column]?.getD "") ∈ rowEntries cells (grid.headD []) :=
        mem_rowEntries (by simpa using h)
      have value : (grid.headD [])[column]? = grid[0]?.bind (·[column]?) := by cases grid <;> simp
      rw [value] at here
      exact List.mem_append_left _ here
    | succ row =>
      have later : grid[row + 1]? = grid.tail[row]? := by cases grid <;> simp
      rw [later]
      exact List.mem_append_right _ (ih (by simpa using h))

/-- Where there is no value, there is nothing to write. -/
theorem filter_rowEntries_nil (cells : List (Option Int)) :
    (rowEntries cells []).filter (·.2 ≠ "") = [] := by
  induction cells with
  | nil => rfl
  | cons cell cells ih => cases cell <;> simpa [rowEntries] using ih

theorem filter_entries_nil (rows : List (List (Option Int))) :
    (entries rows []).filter (·.2 ≠ "") = [] := by
  induction rows with
  | nil => rfl
  | cons cells rows ih =>
    rw [entries, List.filter_append, List.headD_nil, List.tail_nil, filter_rowEntries_nil, ih]
    rfl

theorem position?_eq (t : Table) (row column : Nat) :
    t.position? row column = ((t.cells[row]?.getD [])[column]?).join := by
  unfold Table.position?
  cases t.cells[row]? <;> simp

theorem rowInserts_eq (t : Table) (row column : Nat) (values : List String) :
    rowInserts t row column values =
      (rowEntries ((t.cells[row]?.getD []).drop column) values).filter (·.2 ≠ "") := by
  induction values generalizing column with
  | nil => rw [rowInserts, filter_rowEntries_nil]
  | cons value rest ih =>
    have position := position?_eq t row column
    have next := ih (column + 1)
    cases hc : (t.cells[row]?.getD [])[column]? with
    | none =>
      have beyond := List.getElem?_eq_none_iff.mp hc
      rw [hc] at position
      rw [List.drop_of_length_le (by omega)] at next ⊢
      simp only [rowInserts, position, Option.join_none, next]
      rfl
    | some cell =>
      obtain ⟨bound, here⟩ := List.getElem?_eq_some_iff.mp hc
      rw [hc, Option.join_some] at position
      rw [List.drop_eq_getElem_cons bound, here]
      cases cell with
      | none => simp only [rowInserts, position, next, rowEntries, List.tail_cons]
      | some i =>
        by_cases empty : value = ""
        · simp [rowInserts, position, next, rowEntries, empty]
        · simp [rowInserts, position, next, rowEntries, empty]

theorem rowsInserts_eq (t : Table) (row : Nat) (lists : List (List String)) :
    rowsInserts t row lists = (entries (t.cells.drop row) lists).filter (·.2 ≠ "") := by
  induction lists generalizing row with
  | nil => rw [rowsInserts, filter_entries_nil]
  | cons values rest ih =>
    rw [rowsInserts, rowInserts_eq, ih, List.drop_zero]
    cases hc : t.cells[row]? with
    | none =>
      have beyond := List.getElem?_eq_none_iff.mp hc
      rw [List.drop_of_length_le (show t.cells.length ≤ row by omega),
        List.drop_of_length_le (show t.cells.length ≤ row + 1 by omega)]
      rfl
    | some cells =>
      obtain ⟨bound, here⟩ := List.getElem?_eq_some_iff.mp hc
      rw [List.drop_eq_getElem_cons bound, here, entries, List.filter_append]
      rfl

/-- A job writes the values that are not empty, row by row. -/
theorem inserts_eq (j : Job) (t : Table) :
    j.headerInserts t ++ j.dataInserts t = (entries t.cells j.grid).filter (·.2 ≠ "") := by
  rw [← List.drop_zero (l := t.cells), ← rowsInserts_eq]
  unfold headerInserts dataInserts grid
  cases j.headers with
  | nil => rfl
  | cons value rest => rfl

theorem descending_pairwise (inserts : List Insert) :
    (descending inserts).Pairwise fun a b => b.1 ≤ a.1 := by
  have sorted : (descending inserts).Pairwise fun a b => decide (b.1 ≤ a.1) = true :=
    List.pairwise_mergeSort (by simp only [decide_eq_true_eq]; omega)
      (by simp only [Bool.or_eq_true, decide_eq_true_eq]; omega) inserts
  exact sorted.imp of_decide_eq_true

/-- Sorting turns ascending insertions around. -/
theorem descending_eq_reverse {inserts : List Insert} (ascending : inserts.Pairwise (·.1 < ·.1)) :
    descending inserts = inserts.reverse := by
  have turned : inserts.reverse.Pairwise fun a b => b.1 ≤ a.1 := by
    rw [List.pairwise_reverse]
    exact ascending.imp Int.le_of_lt
  have apart : (inserts.map (·.1)).Nodup :=
    List.pairwise_map.mpr (ascending.imp fun h => Int.ne_of_lt h)
  refine List.Perm.eq_of_pairwise ?_ (descending_pairwise inserts) turned
    ((List.mergeSort_perm inserts _).trans inserts.reverse_perm.symm)
  intro a b ha hb hab hba
  exact List.inj_on_of_nodup_map apart (List.mem_mergeSort.mp ha) (List.mem_reverse.mp hb)
    (Int.le_antisymm hba hab)

/-- The cells of a table from the last to the first, each with the value of a job for it. -/
def cellsOf (j : Job) (t : Table) : List Insert :=
  (entries t.cells j.grid).reverse

theorem position_of_mem_cellsOf {j : Job} {t : Table} {i : Insert} (h : i ∈ cellsOf j t) :
    i.1 ∈ positions t := by
  rw [positions, ← entries_positions t.cells j.grid]
  exact List.mem_map_of_mem (List.mem_reverse.mp h)

theorem mem_cellsOf {j : Job} {t : Table} {row column : Nat} {p : Int}
    (h : t.position? row column = some p) : (p, j.valueAt row column) ∈ cellsOf j t :=
  List.mem_reverse.mpr (mem_entries h)

variable {t : Table} (ascending : (positions t).Pairwise (· < ·))

include ascending

theorem entries_ascending (grid : List (List String)) :
    (entries t.cells grid).Pairwise (·.1 < ·.1) := by
  rw [positions, ← entries_positions t.cells grid] at ascending
  exact List.pairwise_map.mp ascending

theorem cellsOf_descending (j : Job) : Descending (cellsOf j t) := by
  rw [Descending, cellsOf, List.pairwise_reverse]
  exact entries_ascending ascending j.grid

theorem inserts_ascending (j : Job) :
    (j.headerInserts t ++ j.dataInserts t).Pairwise (·.1 < ·.1) := by
  rw [inserts_eq]
  exact (entries_ascending ascending j.grid).filter _

/-- The insertions of a job are its values that are not empty, from the last cell on. -/
theorem descending_inserts (j : Job) :
    descending (j.headerInserts t ++ j.dataInserts t) = (cellsOf j t).filter (·.2 ≠ "") := by
  rw [descending_eq_reverse (inserts_ascending ascending j), inserts_eq, cellsOf, List.filter_reverse]

end Job

end Docwright.Table
