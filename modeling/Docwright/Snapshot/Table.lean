import Docwright.Snapshot.Basic

namespace Docwright.Snapshot

/-- A cell without content has no position to write to. -/
structure Table where
  start : Int
  stop : Int
  rows : Int
  columns : Int
  cells : List (List (Option Int))
deriving DecidableEq

/-- The size is counted where it is not given, the columns in the first row. -/
def Element.table? (e : Element) : Option Table :=
  e.grid.map fun g => {
    start := e.start.getD 0
    stop := e.stop.getD 0
    rows := g.rows.getD g.cells.length
    columns := g.columns.getD ((g.cells.head?.map fun row => (row.length : Int)).getD 0)
    cells := g.cells.map fun row => row.map fun cell => cell.head?.join }

def tables (s : Snapshot) : List Table :=
  s.filterMap Element.table?

/-- The position that stands for the end of every document. -/
def farIndex : Int := 0x7FFFFFFFFFFFFFFF

def Table.distance (t : Table) (near : Int) : Nat :=
  (t.start - near).natAbs

/-- The table that starts nearest to `near`; of two equally near ones the earlier. -/
def nearest (near : Int) : List Table → Option Table
  | [] => none
  | t :: ts =>
    match nearest near ts with
    | none => some t
    | some u => if u.distance near < t.distance near then some u else some t

/-- The nearest table that does not start at an excluded position. -/
def tableNear (s : Snapshot) (near : Int) (exclude : List Int) : Option Table :=
  nearest near ((tables s).filter fun t => !exclude.contains t.start)

/-- The position of a cell, when the table has the cell and the cell has a position. -/
def Table.position? (t : Table) (row column : Nat) : Option Int :=
  ((t.cells[row]?).bind (·[column]?)).join

end Docwright.Snapshot
