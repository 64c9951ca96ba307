import Docwright.Proofs.Snapshot.Nearest
import Docwright.Proofs.Table.Records
import Docwright.Proofs.Writer.Phases

namespace Docwright.Writer

open Edit Table
open Snapshot (IsLast)

variable {σ : Type}

/-- The sheet of these records. -/
def Sheet.of (first : List String) (rest : List (List String)) : Sheet :=
  ⟨first.length, first :: rest⟩

theorem readSheet_of_records {text : String} {records : List (List String)} {first : List String}
    {rest : List (List String)} (read : Csv.records text = .ok records)
    (counted : records.filter (!·.isEmpty) = first :: rest) :
    readSheet text = .ok (Sheet.of first rest) := by
  unfold readSheet
  rw [read]
  simp only [Except.mapError, bind, Except.bind, counted]
  rfl

section

variable {first : List String} (filled : first ≠ []) (rest : List (List String)) (hasHeaders : Bool)

theorem Sheet.headers_job :
    ((Sheet.of first rest).job hasHeaders).headers = if hasHeaders then first else [] := by
  cases hasHeaders <;> rfl

theorem Sheet.data_job : ((Sheet.of first rest).job hasHeaders).data =
    if hasHeaders then rest else first :: rest := by
  cases hasHeaders <;> rfl

include filled

/-- The first record is the first row of the table, as headers or as data. -/
theorem Sheet.grid_job : ((Sheet.of first rest).job hasHeaders).grid = first :: rest := by
  rw [Job.grid, Sheet.headers_job, Sheet.data_job]
  cases hasHeaders with
  | true => exact if_neg (by simpa using filled)
  | false => rfl

theorem Sheet.hasContent_job : ((Sheet.of first rest).job hasHeaders).hasContent = true := by
  rw [Job.hasContent, Sheet.headers_job, Sheet.data_job]
  cases hasHeaders with
  | true => simp [filled]
  | false => rfl

end

theorem claimAll_of_isLast {s : Snapshot} {t : Snapshot.Table} (h : IsLast s t) {j : Job}
    (pending : j.state = .pending) : claimAll s [j] = ([j.bind t], none) := by
  simp only [claimAll, claimFrom, Job.claim, pending, h.tableNear, Job.bind]

theorem Filling.calls_of_single {id : DocumentId} {j : Job} {p : Population} {xs : List Exchange}
    (h : Filling id false [j] p xs) : xs.map Exchange.call = jobCalls id j := by
  cases h with
  | unmeasured before split calls answered unmeasured => cases unmeasured
  | all calls => rw [calls, List.flatMap_singleton]
  | stopped before split calls _ call =>
    obtain ⟨rfl, same⟩ : before = [] ∧ _ := by
      cases before with
      | nil => exact ⟨rfl, split⟩
      | cons _ before => simp at split
    obtain ⟨rfl, -⟩ := List.cons.inj same
    rw [List.map_append, calls, List.flatMap_nil, List.nil_append, List.map_singleton, call]

/-- What the calls of a sheet are, as far as they are made. -/
structure SheetCalls (id : DocumentId) (first : List String) (rest : List (List String))
    (hasHeaders : Bool) (xs : List Exchange) : Prop where
  opens : xs[0]?.map Exchange.call = some (.get id)
  creates : ∀ x document, xs[0]? = some x → x.answer = .ok document →
    xs[1]?.map Exchange.call = some (.update id (requests
      (tableAt (first :: rest).length first.length (Snapshot.ofJson document).endIndex)))
  looks : ∀ y, xs[1]? = some y → y.Answered → xs[2]?.map Exchange.call = some (.get id)
  /-- When the last table of the document is the new one, with all its cells. -/
  fills : ∀ z document t place, xs[2]? = some z → z.answer = .ok document →
    IsLast (Snapshot.ofJson document) t →
    Gridded t (first :: rest).length first.length place →
    ∃ inserts : List Job.Insert, inserts.Perm (placedRows place first.length (first :: rest)) ∧
      inserts.Pairwise (fun i j => j.1 ≤ i.1) ∧
      (xs.drop 3).map Exchange.call = updates id (inserts.map Job.Insert.operation ++
        (if hasHeaders then placed (place 0) first.length first else []).map Job.headerStyle)

section

variable {id : DocumentId} {first : List String} {rest : List (List String)} {hasHeaders : Bool}

theorem calls_of_populating {p : Population} {z : Exchange} {zs : List Exchange}
    (h : Populating id false [(Sheet.of first rest).job hasHeaders] p (z :: zs))
    {document : Json} (read : z.answer = .ok document) {t : Snapshot.Table}
    (last : IsLast (Snapshot.ofJson document) t) :
    zs.map Exchange.call = updates id (((Sheet.of first rest).job hasHeaders).fill t) := by
  have found := claimAll_of_isLast last (j := (Sheet.of first rest).job hasHeaders) rfl
  cases h with
  | unread _ _ failed => rw [read] at failed; cases failed
  | unbound _ _ read' claimed =>
    cases read.symm.trans read'
    rw [found] at claimed
    cases claimed
  | bound _ _ read' claimed filling =>
    cases read.symm.trans read'
    cases found.symm.trans claimed
    exact filling.calls_of_single

theorem Populating.opens {jobs : List Job} (content : jobs.any (·.hasContent) = true)
    {marked : Bool} {p : Population} {zs : List Exchange} (h : Populating id marked jobs p zs) :
    zs[0]?.map Exchange.call = some (.get id) := by
  cases h with
  | nothing empty => rw [empty] at content; cases content
  | unread _ call | unbound _ call | bound _ call => exact congrArg some call

/-- What is written into a table that has all its cells. -/
theorem fill_of_gridded (filled : first ≠ []) {t : Snapshot.Table} {place : Nat → Nat → Int}
    (gridded : Gridded t (first :: rest).length first.length place) :
    ∃ inserts : List Job.Insert, inserts.Perm (placedRows place first.length (first :: rest)) ∧
      inserts.Pairwise (fun i j => j.1 ≤ i.1) ∧
      ((Sheet.of first rest).job hasHeaders).fill t = inserts.map Job.Insert.operation ++
        (if hasHeaders then placed (place 0) first.length first else []).map Job.headerStyle := by
  have grid := Sheet.grid_job filled rest hasHeaders
  have texts := inserts_of_gridded gridded (congrArg List.length grid)
  have heads := headerInserts_of_gridded gridded (Nat.succ_pos _) ((Sheet.of first rest).job hasHeaders)
  rw [grid] at texts
  rw [Sheet.headers_job] at heads
  refine ⟨Job.descending (placedRows place first.length (first :: rest)), List.mergeSort_perm _ _,
    Job.descending_pairwise _, ?_⟩
  rw [Job.fill, texts, heads, apply_ite (placed (place 0) first.length), placed_nil]

theorem Phases.sheetCalls (filled : first ≠ []) {w : Writer σ} {s u : Session σ}
    {r : Except Failure Update} {xs : List Exchange}
    (phases : Phases w id (.ofSheet (Sheet.of first rest) hasHeaders) s r u xs) :
    SheetCalls id first rest hasHeaders xs := by
  have content : [(Sheet.of first rest).job hasHeaders].any (·.hasContent) = true := by
    simp [Sheet.hasContent_job filled rest hasHeaders]
  cases phases with
  | unopened opening =>
    cases opening with
    | unmeasured call read unmeasured => cases unmeasured
    | @unread x _ call failed => exact {
        opens := congrArg some call
        creates := by
          intro x' document first answered
          cases first
          cases failed.symm.trans answered
        looks := by simp
        fills := by simp }
    | @uncreated x y document _ call read update failed => exact {
        opens := congrArg some call
        creates := by
          intro x' document' first answered
          cases first
          cases read.symm.trans answered
          exact congrArg List.head? update.symm
        looks := by
          intro y' second answered
          cases second
          exact absurd answered (not_answered failed)
        fills := by simp }
  | @opened _ _ _ p _ zs opening _ _ _ populating =>
    cases opening with
    | @created x ys document call read _ calls answered =>
      obtain ⟨y, rfl, second⟩ := List.map_eq_singleton_iff.mp calls
      exact {
        opens := congrArg some call
        creates := by
          intro x' document' first answered
          cases first
          cases read.symm.trans answered
          exact congrArg some second
        looks := fun _ _ _ => populating.opens content
        fills := by
          intro z document' t place third answered last gridded
          obtain ⟨zs, rfl⟩ := List.head?_eq_some_iff.mp (List.head?_eq_getElem?.trans third)
          obtain ⟨inserts, perm, sorted, fill⟩ := fill_of_gridded filled gridded
          exact ⟨inserts, perm, sorted, fill ▸ calls_of_populating populating answered last⟩ }

end

/-- Each record of a sheet that is not empty has its own row. What is not written is the empty values,
and those that the first record has no column for. -/
theorem records_fill_rows (w : Writer σ) (id : DocumentId) {text : String}
    {records : List (List String)} (read : Csv.records text = .ok records) {first : List String}
    {rest : List (List String)} (counted : records.filter (!·.isEmpty) = first :: rest)
    (hasHeaders : Bool) (s : Session σ) :
    ∃ r u xs, w.appendCsv id text hasHeaders s = (r, u) ∧ s.Makes u xs ∧
      SheetCalls id first rest hasHeaders xs := by
  have sheet := readSheet_of_records read counted
  have filled : first ≠ [] := by
    have kept : first ∈ records.filter (!·.isEmpty) := by rw [counted]; exact List.mem_cons_self
    simpa using (List.mem_filter.mp kept).2
  obtain ⟨r, u, xs, run, made, phases⟩ :=
    phases_inTwoPhases w id (.ofSheet (Sheet.of first rest) hasHeaders) s
  exact ⟨r, u, xs, (appendCsv_eq w id sheet hasHeaders) ▸ run, made, phases.sheetCalls filled⟩

/-- A sheet with an empty line, whose second record is longer than the first. -/
def raggedSheet : String :=
  ",\n\n,2,3"

/-- Two rows of two cells. -/
def sheetTable : Snapshot.Table where
  start := 5
  stop := 0
  rows := 2
  columns := 2
  cells := [[some 8, some 10], [some 13, some 15]]

def cellPlace (row column : Nat) : Int :=
  8 + 5 * row + 2 * column

/-- A snapshot in which the new table is found behind another one. -/
def sheetTables : Json :=
  let cell (row column : Nat) : Json := .obj [("content",
    .arr [.obj [("startIndex", .num (.int (cellPlace row column)))]])]
  let row (row : Nat) : Json := .obj [("tableCells", .arr [cell row 0, cell row 1])]
  let table (start : Int) (rows : List Json) : Json := .obj [("startIndex", .num (.int start)),
    ("table", .obj [("tableRows", .arr rows)])]
  .obj [("body", .obj [("content", .arr [table 1 [], table 5 [row 0, row 1]])])]

/-- The document is empty before the table is created. -/
def sheetWritten : Session (List (Except Failure Json)) :=
  ⟨[.ok (.obj []), .ok .null, .ok sheetTables, .ok .null], 0, []⟩

theorem isLast_sheetTable : IsLast (Snapshot.ofJson sheetTables) sheetTable where
  mem := List.mem_of_getElem? (i := 1) (by with_unfolding_all rfl)
  last := by
    have two : Snapshot.tables (Snapshot.ofJson sheetTables) =
        [⟨1, 0, 0, 0, []⟩, sheetTable] := by with_unfolding_all rfl
    rw [two]
    decide
  near := by decide

theorem ragged_records_fill_rows : ∃ r u xs,
    scripted.appendCsv (some "doc") raggedSheet true sheetWritten = (r, u) ∧
    sheetWritten.Makes u xs ∧
    (xs.drop 3).map Exchange.call = [.update (some "doc") (requests [.insertText 15 "2"])] := by
  have read : Csv.records raggedSheet = .ok [["", ""], [], ["", "2", "3"]] := by
    with_unfolding_all rfl
  have counted : [["", ""], [], ["", "2", "3"]].filter (!·.isEmpty) = ["", ""] :: [["", "2", "3"]] :=
    rfl
  obtain ⟨r, u, xs, run, made, calls⟩ :=
    records_fill_rows scripted (some "doc") read counted true sheetWritten
  have answers : xs[2]?.map Exchange.answer = some (.ok sheetTables) := by
    have all : (scripted.appendCsv (some "doc") raggedSheet true sheetWritten).2.exchanges = xs := by
      rw [run]
      exact made
    rw [← all]
    with_unfolding_all rfl
  obtain ⟨z, third, answered⟩ := Option.map_eq_some_iff.mp answers
  obtain ⟨inserts, perm, -, written⟩ :=
    calls.fills z sheetTables sheetTable cellPlace third answered isLast_sheetTable rfl
  have one : placedRows cellPlace 2 [["", ""], ["", "2", "3"]] = [(15, "2")] := by decide
  have none : placed (cellPlace 0) 2 ["", ""] = [] := by decide
  rw [List.length_cons, List.length_cons, List.length_nil, one, List.perm_singleton] at perm
  simp only [↓reduceIte, List.length_cons, List.length_nil, Nat.zero_add, Nat.reduceAdd, none, perm,
    List.map_nil, List.append_nil] at written
  exact ⟨r, u, xs, run, made, written⟩

end Docwright.Writer
