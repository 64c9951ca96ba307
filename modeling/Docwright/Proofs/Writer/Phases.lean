import Docwright.Proofs.Writer.Declining
import Docwright.Proofs.Writer.Population

/-!
Writing in two phases: a batch creates the tables at the end of the document, then they are filled
in. Templates, tables and sheets are all written in this way, and `Phases` tells every way in which
it may go.
-/

namespace Docwright.Writer

open Edit Table

variable {σ : Type}

/-- What the second phase makes of an update. -/
def Population.outcome (p : Population) (u : Update) : Except Failure Update :=
  match p.failure with
  | some f => .error (populationFailure u.documentId f)
  | none => .ok { u with tables := p.filled }

theorem populationFailure_of_not_api (id : DocumentId) {f : Failure} (h : f.isApi = false) :
    populationFailure id f = f := by
  cases f with
  | api => cases h
  | _ => rfl

/-- What is written in two phases: edits that create tables where the document ends, with warnings
that are given before them, and jobs for the tables. If `marked`, the texts are marked texts. -/
structure Contents where
  operation : String
  edits : Int → List Operation
  warnings : Int → List String := fun _ => []
  jobs : List Job
  marked : Bool := false

def Contents.measure (c : Contents) (stop : Int) : Except Failure Unit :=
  checkEncodable c.marked (Replay.insertedTexts (c.edits stop))

def firstPhase (w : Writer σ) (id : DocumentId) (c : Contents) : Action σ Update := do
  let stop ← w.endOf id
  Action.warn (c.warnings stop)
  .settled (c.measure stop)
  let _ ← w.submit id (c.edits stop) c.operation
  return { documentId := id, operations := (c.edits stop).length }

def inTwoPhases (w : Writer σ) (id : DocumentId) (c : Contents) : Action σ Update := do
  let created ← w.firstPhase id c
  let tables ← w.populate id c.jobs c.marked
  return { created with tables }

/-- How the first phase may go, from `s`. -/
inductive Opening (id : DocumentId) (c : Contents) :
    Except Failure Update → List Exchange → Prop where
  | unread {x : Exchange} {f : Failure} (call : x.call = .get id) (failed : x.answer = .error f) :
    Opening id c (.error f) [x]
  | unmeasured {x : Exchange} {document : Json} {f : Failure} (call : x.call = .get id)
    (read : x.answer = .ok document)
    (unmeasured : c.measure (Snapshot.ofJson document).endIndex = .error f) :
    Opening id c (.error f) [x]
  | uncreated {x y : Exchange} {document : Json} {f : Failure} (call : x.call = .get id)
    (read : x.answer = .ok document)
    (update : updates id (c.edits (Snapshot.ofJson document).endIndex) = [y.call])
    (failed : y.answer = .error f) : Opening id c (.error f) [x, y]
  | created {x : Exchange} {ys : List Exchange} {document : Json} (call : x.call = .get id)
    (read : x.answer = .ok document)
    (measured : c.measure (Snapshot.ofJson document).endIndex = .ok ())
    (calls : ys.map Exchange.call = updates id (c.edits (Snapshot.ofJson document).endIndex))
    (answered : ∀ y ∈ ys, y.Answered) :
    Opening id c (.ok ⟨id, (c.edits (Snapshot.ofJson document).endIndex).length, 0⟩) (x :: ys)

theorem opening_firstPhase (w : Writer σ) (id : DocumentId) (c : Contents) (s : Session σ) :
    ∃ r t xs, w.firstPhase id c s = (r, t) ∧ s.Makes t xs ∧ Opening id c r xs := by
  unfold firstPhase
  rw [endOf_bind]
  obtain ⟨x, a, run, first, call⟩ := fetch_makes w id s
  cases read : x.answer with
  | error f =>
    rw [read] at run
    exact ⟨_, a, [x], Action.bind_of_error run _, first, .unread call read⟩
  | ok document =>
    rw [read] at run
    obtain ⟨b, warned, quiet⟩ := warn_makes (c.warnings (Snapshot.ofJson document).endIndex) a
    have opened : s.Makes b [x] := first.trans quiet
    rw [Action.bind_of_ok run, Action.bind_of_ok warned]
    cases measured : c.measure (Snapshot.ofJson document).endIndex with
    | error f => exact ⟨_, b, [x], rfl, opened, .unmeasured call read measured⟩
    | ok _ =>
      rw [Action.settled_ok, pure_bind]
      rcases submit_cases w id (c.edits (Snapshot.ofJson document).endIndex) c.operation b with
        ⟨ys, t, v, submitted, made, calls, answered⟩ |
        ⟨y, t, f, submitted, made, update, failed⟩
      · exact ⟨_, t, x :: ys, Action.bind_of_ok submitted _, opened.trans made,
          .created call read measured calls answered⟩
      · exact ⟨_, t, [x, y], Action.bind_of_error submitted _, opened.trans made,
          .uncreated call read update failed⟩

/-- How writing in two phases may go, from `s`. -/
inductive Phases (w : Writer σ) (id : DocumentId) (c : Contents) (s : Session σ) :
    Except Failure Update → Session σ → List Exchange → Prop where
  | unopened {t : Session σ} {f : Failure} {xs : List Exchange}
    (opening : Opening id c (.error f) xs) : Phases w id c s (.error f) t xs
  | opened {t u : Session σ} {created : Update} {p : Population} {xs ys : List Exchange}
    (opening : Opening id c (.ok created) xs) (begun : w.firstPhase id c s = (.ok created, t))
    (reached : s.Makes t xs) (ran : w.runJobs id c.jobs t c.marked = (p, u))
    (populating : Populating id c.marked c.jobs p ys) :
    Phases w id c s (p.outcome created) u (xs ++ ys)

theorem phases_inTwoPhases (w : Writer σ) (id : DocumentId) (c : Contents) (s : Session σ) :
    ∃ r u xs, w.inTwoPhases id c s = (r, u) ∧ s.Makes u xs ∧ Phases w id c s r u xs := by
  obtain ⟨r, t, xs, begun, reached, opening⟩ := opening_firstPhase w id c s
  cases r with
  | error f => exact ⟨_, t, xs, Action.bind_of_error begun _, reached, .unopened opening⟩
  | ok created =>
    have named : created.documentId = id := by
      cases opening
      rfl
    obtain ⟨p, u, ys, ran, made, populating⟩ := populating_runJobs w id c.marked c.jobs t
    refine ⟨_, u, xs ++ ys, ?_, reached.trans made, .opened opening begun reached ran populating⟩
    refine (Action.bind_of_ok begun _).trans ?_
    unfold Population.outcome
    rw [named]
    cases hf : p.failure with
    | some f => exact Action.bind_of_error (by simp only [populate, ran, hf]) _
    | none => exact Action.bind_of_ok (by simp only [populate, ran, hf]) _

theorem Opening.nonempty {id : DocumentId} {c : Contents} {r : Except Failure Update}
    {xs : List Exchange} (h : Opening id c r xs) : xs ≠ [] := by
  cases h <;> exact List.cons_ne_nil _ _

theorem Phases.nonempty {w : Writer σ} {id : DocumentId} {c : Contents} {s t : Session σ}
    {r : Except Failure Update} {xs : List Exchange} (h : Phases w id c s r t xs) : xs ≠ [] := by
  cases h with
  | unopened opening => exact opening.nonempty
  | opened opening => exact List.append_ne_nil_of_left_ne_nil opening.nonempty _

/-- A template at a position. -/
def compiledAt (t : Template) (stop : Int) : Template.Compiled :=
  match t.compile stop with
  | .ok compiled => compiled
  | .error _ => ⟨[], [], []⟩

theorem compile_eq_compiledAt {t : Template} (h : Template.Proper t) {stop : Int} (first : 1 ≤ stop) :
    t.compile stop = .ok (compiledAt t stop) ∧ (compiledAt t stop).jobs = Template.jobs t := by
  obtain ⟨warnings, compiled⟩ := Template.compile_eq_batch h first
  simp only [compiledAt, compiled, and_self]

theorem operations_compiledAt {t : Template} (h : Template.Proper t) {stop : Int} (first : 1 ≤ stop) :
    (compiledAt t stop).operations = Replay.batch stop (Template.passages t) := by
  obtain ⟨warnings, compiled⟩ := Template.compile_eq_batch h first
  rw [compiledAt, compiled]

def Contents.ofDraft (d : Template.Draft) : Contents where
  operation := "apply_template"
  edits stop := (compiledAt d.template stop).operations
  warnings := d.warnings
  jobs := Template.jobs d.template
  marked := d.marked

theorem appendTemplate_eq (w : Writer σ) (id : DocumentId) {given : Json} {d : Template.Draft}
    (h : Template.Draft.ofJson given = .ok d) :
    w.appendTemplate id given = w.inTwoPhases id (.ofDraft d) := by
  unfold appendTemplate inTwoPhases firstPhase
  rw [h, Action.settled_ok, pure_bind, bind_assoc, endOf_bind, endOf_bind]
  congr 1
  funext document
  obtain ⟨compiles, jobs⟩ :=
    compile_eq_compiledAt (Template.Draft.proper h) (one_le_endIndex (Snapshot.ofJson document))
  have compiled := Template.Draft.compile_eq compiles
  simp only [bind_assoc]
  congr 1
  funext _
  have measure : (Contents.ofDraft d).measure (Snapshot.ofJson document).endIndex =
    checkEncodable d.marked (compiledAt d.template (Snapshot.ofJson document).endIndex).texts := rfl
  rw [compiled, measure]
  cases checkEncodable d.marked
    (compiledAt d.template (Snapshot.ofJson document).endIndex).texts with
  | error f => rfl
  | ok _ =>
    simp only [Except.map, Action.settled_ok, submitEdits_ok, jobs, pure_bind, bind_assoc]
    rfl

/-- The batch that creates a table. -/
def tableAt (rows columns stop : Int) : List Operation :=
  [.insertTable stop rows columns]

theorem insertTable_at {rows columns stop : Int} (tall : 1 ≤ rows) (wide : 1 ≤ columns)
    (first : 1 ≤ stop) :
    editsAt stop (fun b => b.insertTable rows columns) = .ok (tableAt rows columns stop) := by
  have inserted : Builder.insertTable ⟨stop, []⟩ rows columns =
      .ok ⟨stop, tableAt rows columns stop⟩ := if_neg (by omega)
  exact editsAt_eq first (fun b => b.insertTable rows columns) inserted

def Contents.ofTable (rows columns : Int) (headers : List String) (data : List (List String)) :
    Contents where
  operation := "insert_table"
  edits := tableAt rows columns
  jobs := [{ rows, columns, headers, data }]

theorem appendTable_eq (w : Writer σ) (id : DocumentId) {rows columns : Int} (tall : 1 ≤ rows)
    (wide : 1 ≤ columns) (headers : List String) (data : List (List String)) :
    w.appendTable id rows columns headers data =
      w.inTwoPhases id (.ofTable rows columns headers data) := by
  have sized : ¬(rows < 1 ∨ columns < 1) := by omega
  unfold appendTable inTwoPhases firstPhase append
  rw [if_neg sized, endOf_bind, bind_assoc, bind_assoc]
  simp only [endOf_bind, bind_assoc]
  congr 1
  funext document
  have created := insertTable_at tall wide (one_le_endIndex (Snapshot.ofJson document))
  simp only [created, submitEdits_ok, Contents.ofTable, Contents.measure, checkEncodable_false,
    Action.settled_ok, Action.warn_nil, pure_bind, bind_assoc]

theorem readSheet_eq_ok {text : String} {sheet : Sheet} (h : readSheet text = .ok sheet) :
    ∃ first rest, sheet = ⟨first.length, first :: rest⟩ ∧ first ≠ [] := by
  unfold readSheet at h
  cases hr : Csv.records text with
  | error e => rw [hr] at h; cases h
  | ok records =>
    rw [hr] at h
    cases hf : records.filter (!·.isEmpty) with
    | nil =>
      simp only [Except.mapError, bind, Except.bind, hf] at h
      cases h
    | cons first rest =>
      simp only [Except.mapError, bind, Except.bind, hf] at h
      cases h
      have kept : first ∈ records.filter (!·.isEmpty) := by rw [hf]; exact List.mem_cons_self
      refine ⟨first, rest, rfl, ?_⟩
      simpa using (List.mem_filter.mp kept).2

/-- The records of a sheet that are its headers, and those that are its data. -/
def Sheet.parts (sheet : Sheet) (hasHeaders : Bool) : List String × List (List String) :=
  if hasHeaders then (sheet.records.headD [], sheet.records.tail) else ([], sheet.records)

def Sheet.job (sheet : Sheet) (hasHeaders : Bool) : Job where
  rows := sheet.records.length
  columns := sheet.columns
  headers := (sheet.parts hasHeaders).1
  data := (sheet.parts hasHeaders).2

def Contents.ofSheet (sheet : Sheet) (hasHeaders : Bool) : Contents :=
  .ofTable sheet.records.length sheet.columns (sheet.parts hasHeaders).1 (sheet.parts hasHeaders).2

theorem appendCsv_eq (w : Writer σ) (id : DocumentId) {text : String} {sheet : Sheet}
    (h : readSheet text = .ok sheet) (hasHeaders : Bool) :
    w.appendCsv id text hasHeaders = w.inTwoPhases id (.ofSheet sheet hasHeaders) := by
  obtain ⟨first, rest, rfl, filled⟩ := readSheet_eq_ok h
  have tall : (1 : Int) ≤ (first :: rest).length := by simp only [List.length_cons]; omega
  have wide : (1 : Int) ≤ first.length := by
    have := List.length_pos_iff.mpr filled
    omega
  unfold appendCsv
  rw [h, Action.settled_ok, pure_bind]
  exact appendTable_eq w id tall wide _ _

/-- What can be written in two phases. -/
inductive Writing where
  | template (given : Json)
  | table (rows columns : Int) (headers : List String) (data : List (List String))
  | sheet (text : String) (hasHeaders : Bool)

def Writing.append (w : Writer σ) (id : DocumentId) : Writing → Action σ Update
  | .template given => w.appendTemplate id given
  | .table rows columns headers data => w.appendTable id rows columns headers data
  | .sheet text hasHeaders => w.appendCsv id text hasHeaders

/-- What the arguments ask for, if they pass their checks. -/
def Writing.contents : Writing → Except Failure Contents
  | .template given => (Template.Draft.ofJson given).map .ofDraft
  | .table rows columns headers data =>
    if rows < 1 ∨ columns < 1 then .error (invalid (Refusal.tableSize).message)
    else .ok (.ofTable rows columns headers data)
  | .sheet text hasHeaders => (readSheet text).map (.ofSheet · hasHeaders)

theorem Writing.append_eq (c : Writing) (w : Writer σ) (id : DocumentId) :
    c.append w id = .settled c.contents >>= w.inTwoPhases id := by
  cases c with
  | template given =>
    rw [append, contents]
    cases h : Template.Draft.ofJson given with
    | error f => rw [appendTemplate, h]; rfl
    | ok d => rw [appendTemplate_eq w id h]; rfl
  | table rows columns headers data =>
    rw [append, contents]
    by_cases small : rows < 1 ∨ columns < 1
    · rw [appendTable, if_pos small, if_pos small]
      rfl
    · rw [appendTable_eq w id (by omega) (by omega), if_neg small]
      rfl
  | sheet text hasHeaders =>
    rw [append, contents]
    cases h : readSheet text with
    | error f => rw [appendCsv, h]; rfl
    | ok sheet => rw [appendCsv_eq w id h]; rfl

/-- The failure is one that the arguments are declined with. -/
def Writing.Declines (f : Failure) : Writing → Prop
  | .template given => Declined given f
  | .table .. | .sheet .. => Unfit f

theorem error_of_map {α β : Type} {e : Except Failure α} {g : α → β} {f : Failure}
    (h : e.map g = .error f) : e = .error f := by
  cases e with
  | error => cases h; rfl
  | ok => cases h

theorem exists_of_map {α β : Type} {e : Except Failure α} {g : α → β} {b : β}
    (h : e.map g = .ok b) : ∃ a, e = .ok a ∧ g a = b := by
  cases e with
  | error => cases h
  | ok a => exact ⟨a, rfl, Except.ok.inj h⟩

theorem Writing.declines {c : Writing} {f : Failure} (h : c.contents = .error f) : c.Declines f := by
  cases c with
  | template given => exact declined_draft (error_of_map h)
  | table rows columns headers data =>
    rw [contents] at h
    split at h
    · cases h
      trivial
    · cases h
  | sheet text hasHeaders => exact unfit_readSheet (error_of_map h)

/-- It is declined before any call is made, or it is written in two phases. -/
theorem Writing.declined_or_phases (c : Writing) (w : Writer σ) (id : DocumentId) (s : Session σ) :
    (∃ f, c.contents = .error f ∧ c.append w id s = (.error f, s)) ∨
    ∃ d r u xs, c.contents = .ok d ∧ c.append w id s = (r, u) ∧ s.Makes u xs ∧
      Phases w id d s r u xs := by
  rw [c.append_eq]
  cases contents : c.contents with
  | error f => exact .inl ⟨f, rfl, rfl⟩
  | ok d =>
    obtain ⟨r, u, xs, phases⟩ := phases_inTwoPhases w id d s
    exact .inr ⟨d, r, u, xs, rfl, phases⟩

end Docwright.Writer
