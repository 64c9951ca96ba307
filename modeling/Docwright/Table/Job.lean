import Docwright.Edit.Builder
import Docwright.Failure.Basic
import Docwright.Snapshot.Table

/-!
Tables that are filled in after they have been created. A job is bound to a table of a fresh
snapshot, and its cells are then written from the last one to the first, so that no insertion
moves a cell that is still to be written.
-/

namespace Docwright.Table

open Snapshot (Table)
open Edit

inductive State where
  | pending
  | resolved (table : Snapshot.Table)
  | populated (table : Snapshot.Table)
deriving DecidableEq

def State.name : State → String
  | .pending => "pending"
  | .resolved _ => "resolved"
  | .populated _ => "populated"

def State.table? : State → Option Snapshot.Table
  | .pending => none
  | .resolved t | .populated t => some t

/-- The header row is the first row of the table; the data rows follow it. -/
structure Job where
  rows : Int
  columns : Int
  headers : List String
  data : List (List String)
  state : State := .pending
deriving DecidableEq

/-- Why a step of a job is refused. -/
inductive Obstacle where
  | notPending (state : State)
  | notFound (rows columns : Int)
  | notResolved (state : State)
  | notFilled (state : State)

def Obstacle.message : Obstacle → String
  | .notPending s => s!"Cannot resolve a table that is {s.name}"
  | .notFound .. => "Table not found in document"
  | .notResolved s => s!"Cannot populate a table that is {s.name}"
  | .notFilled s => s!"Cannot mark a table populated that is {s.name}"

def Obstacle.toFailure (o : Obstacle) : Failure :=
  .api .tablePopulation o.message .null none

/-- What is logged as a warning. -/
def Obstacle.warnings : Obstacle → List String
  | .notFound rows columns => [s!"No table found to populate ({rows}x{columns})"]
  | _ => []

namespace Job

def hasContent (j : Job) : Bool :=
  !j.headers.isEmpty || !j.data.isEmpty

/-- Binds a pending job to the table nearest to `near`. -/
def claim (j : Job) (s : Snapshot) (near : Int) (exclude : List Int) : Except Obstacle (Table × Job) :=
  match j.state with
  | .pending => match Snapshot.tableNear s near exclude with
    | some t => .ok (t, { j with state := .resolved t })
    | none => .error (.notFound j.rows j.columns)
  | state => .error (.notPending state)

/-- A text to be written at a position. -/
abbrev Insert := Int × String

/-- The non-empty values of a row, at the positions of their cells. -/
def rowInserts (t : Table) (row column : Nat) : List String → List Insert
  | [] => []
  | value :: rest =>
    match t.position? row column with
    | some i => if value = "" then rowInserts t row (column + 1) rest
        else (i, value) :: rowInserts t row (column + 1) rest
    | none => rowInserts t row (column + 1) rest

def rowsInserts (t : Table) (row : Nat) : List (List String) → List Insert
  | [] => []
  | values :: rest => rowInserts t row 0 values ++ rowsInserts t (row + 1) rest

def headerInserts (j : Job) (t : Table) : List Insert :=
  rowInserts t 0 0 j.headers

/-- Data start below the headers, if there are any. -/
def dataInserts (j : Job) (t : Table) : List Insert :=
  rowsInserts t (if j.headers.isEmpty then 0 else 1) j.data

/-- Greatest positions first; equal ones keep their order. -/
def descending (inserts : List Insert) : List Insert :=
  inserts.mergeSort fun a b => b.1 ≤ a.1

def Insert.operation (i : Insert) : Operation :=
  .insertText i.1 i.2

/-- A header is styled at its position before any insertion. -/
def headerStyle (i : Insert) : Operation :=
  .styleText ⟨i.1, i.1 + Text.width i.2, by omega⟩ Style.TextStyle.boldface "bold"

/-- The headers that are written into cells, whose widths have to be known. -/
def writtenHeaders (j : Job) : List String :=
  match j.state.table? with
  | some t => (j.headerInserts t).map (·.2)
  | none => []

def fill (j : Job) (t : Table) : List Operation :=
  (descending (j.headerInserts t ++ j.dataInserts t)).map Insert.operation ++
    (j.headerInserts t).map headerStyle

/-- The cell insertions of a resolved job, then the styles of its headers. -/
def operations (j : Job) : Except Obstacle (List Operation) :=
  match j.state with
  | .resolved t => .ok (j.fill t)
  | state => .error (.notResolved state)

def finish (j : Job) : Except Obstacle Job :=
  match j.state with
  | .resolved t => .ok { j with state := .populated t }
  | state => .error (.notFilled state)

end Job

/-- Each job in turn claims the last table that no earlier one has claimed. The jobs come back in
the state they were left in, with what stopped them, if anything did. -/
def claimFrom (s : Snapshot) (claimed : List Int) : List Job → List Job × Option Obstacle
  | [] => ([], none)
  | j :: js =>
    match j.claim s Snapshot.farIndex claimed with
    | .error o => (j :: js, some o)
    | .ok (t, bound) =>
      let (rest, stop) := claimFrom s (claimed ++ [t.start]) js
      (bound :: rest, stop)

def claimAll (s : Snapshot) (jobs : List Job) : List Job × Option Obstacle :=
  claimFrom s [] jobs

end Docwright.Table
