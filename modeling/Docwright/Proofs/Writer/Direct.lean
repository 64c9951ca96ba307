import Docwright.Proofs.Template.Single
import Docwright.Proofs.Writer.Alike

namespace Docwright.Writer

open Edit Replay Style Template

variable {σ α : Type}

/-- What can be appended by a call of its own. A text becomes a line. -/
inductive Addition where
  | list (kind : String) (items : List String) (indent : Int)
  | pageBreak
  | rule
  | table (rows columns : Int) (headers : List String) (data : List (List String))
  | text (content : String) (style : List (String × Json))

namespace Addition

def append (w : Writer σ) (id : DocumentId) : Addition → Action σ Update
  | .list kind items indent => w.appendList id kind items indent
  | .pageBreak => w.appendPageBreak id
  | .rule => w.appendRule id
  | .table rows columns headers data => w.appendTable id rows columns headers data
  | .text content style => w.appendStyled id (content ++ "\n") (.obj style)

def operation : Addition → String
  | .list .. => "insert_list"
  | .pageBreak => "insert_page_break"
  | .rule => "insert_horizontal_rule"
  | .table .. => "insert_table"
  | .text .. => "append_formatted"

def kind : Addition → ElementKind
  | .list .. => .list
  | .pageBreak => .pageBreak
  | .rule => .rule
  | .table .. => .table
  | .text .. => .text

/-- The members of the value are the arguments. -/
def Members (v : Json) : Addition → Prop
  | .list kind items indent => Given v "list_type" (.str kind) (kind = "") ∧
    Given v "items" (texts items) (items = []) ∧ Given v "indent" (.num (.int indent)) (indent = 0)
  | .pageBreak | .rule => True
  | .table rows columns headers data => Given v "rows" (.num (.int rows)) (rows = 0) ∧
    Given v "columns" (.num (.int columns)) (columns = 0) ∧
    Given v "headers" (texts headers) (headers = []) ∧
    Given v "table_data" (.arr (data.map texts)) (data = [])
  | .text content style => Given v "text" (.str content) (content = "") ∧
    Given v "style" (.obj style) (style = [])

/-- The value is the element of a template that asks for the same. -/
structure ElementOf (c : Addition) (v : Json) : Prop where
  kind : HasKind c.kind.name v
  object : IsObject v c.kind.names
  members : c.Members v

/-- What the checks of the call make of its arguments. -/
def check : Addition → Except Failure Element
  | .list kind items indent =>
    (explain (Writer.readList kind items indent)).map fun read => .list read items indent
  | .pageBreak => .ok .pageBreak
  | .rule => .ok .rule
  | .table rows columns headers data =>
    if rows < 1 ∨ columns < 1 then .error (invalid (Refusal.tableSize).message)
    else .ok (.table rows columns headers data)
  | .text content style => (readStyle (.obj style)).map fun format => .text content format

end Addition

/-! ## What is accepted -/

theorem checkList_eq (raw : RawElement) : checkList raw =
    (Writer.readList raw.listKind raw.items raw.indent).map fun read =>
      .list read raw.items raw.indent := by
  unfold checkList Writer.readList
  cases ListKind.read raw.listKind with
  | error r => rfl
  | ok read =>
    cases checkItems raw.items with
    | error r => rfl
    | ok =>
      cases checkIndent raw.indent with
      | error r => rfl
      | ok => rfl

theorem readStyle_obj (style : List (String × Json)) : readStyle (.obj style) =
    (Template.readFormat (.obj style)).toExcept.mapError fun findings =>
      .style (findings.map Finding.text) := by
  unfold readStyle
  cases style <;> rfl

namespace Addition

variable {members : List (String × Json)} {e : Element}

/-- A break or a rule has no members but its type. -/
theorem readElement_bare {k : ElementKind} (bare : k = .pageBreak ∨ k = .rule)
    (named : HasKind k.name (.obj members)) (object : IsObject (.obj members) k.names) :
    readElement (.obj members) = settleElement [] ⟨k, "", {}, "", [], 0, 0, 0, [], []⟩ := by
  have text : k ≠ .text := by rcases bare with rfl | rfl <;> nofun
  have list : k ≠ .list := by rcases bare with rfl | rfl <;> nofun
  have table : k ≠ .table := by rcases bare with rfl | rfl <;> nofun
  exact readElement_eq (readRawElement_eq named (readsText_of_ne object text)
    (readsList_of_ne object list) (readsTable_of_ne object table)) object

theorem readElement_list {kind : String} {items : List String} {indent : Int}
    (h : (list kind items indent).ElementOf (.obj members)) :
    readElement (.obj members) =
      Checked.ofRefusal (checkList ⟨.list, "", {}, kind, items, indent, 0, 0, [], []⟩) := by
  obtain ⟨named, object, given, filled, deep⟩ := h
  have own : ReadsList members kind items indent :=
    ⟨optional_of_given given rfl, optional_of_given filled (readList_texts items),
      optional_of_given deep rfl⟩
  have read : readRawElement members = .ok ⟨.list, "", {}, kind, items, indent, 0, 0, [], []⟩ :=
    readRawElement_eq named (readsText_of_ne object nofun) own (readsTable_of_ne object nofun)
  rw [readElement_eq read object]
  simp [settleElement, misplaced]

theorem readElement_table {rows columns : Int} {headers : List String} {data : List (List String)}
    (h : (table rows columns headers data).ElementOf (.obj members)) :
    readElement (.obj members) = .ok e ↔
      ¬(rows < 1 ∨ columns < 1) ∧ e = .table rows columns headers data := by
  obtain ⟨named, object, high, wide, headed, filled⟩ := h
  have own : ReadsTable members rows columns headers data :=
    ⟨optional_of_given high rfl, optional_of_given wide rfl,
      optional_of_given headed (readList_texts headers), optional_of_given filled (readList_rows data)⟩
  have read : readRawElement members =
      .ok ⟨.table, "", {}, "", [], 0, rows, columns, headers, data⟩ :=
    readRawElement_eq named (readsText_of_ne object nofun) (readsList_of_ne object nofun) own
  rw [readElement_eq read object]
  by_cases small : rows < 1 ∨ columns < 1
  · simp [settleElement, misplaced, small, Checked.fail]
  · simp [settleElement, misplaced, small, eq_comm]

theorem readElement_text {content : String} {style : List (String × Json)}
    (h : (text content style).ElementOf (.obj members)) {f : TextFormat}
    (passes : Template.readFormat (.obj style) = .ok f) :
    readElement (.obj members) = .ok (.text content f) := by
  obtain ⟨named, object, written, styled⟩ := h
  have plain (none : style = []) : f = {} := by
    subst none
    cases passes
    rfl
  have own : ReadsText members content f :=
    ⟨optional_of_given written rfl,
      optional_of_given (styled.imp_right (And.imp_right plain)) passes⟩
  have read : readRawElement members = .ok ⟨.text, content, f, "", [], 0, 0, 0, [], []⟩ :=
    readRawElement_eq named own (readsList_of_ne object nofun) (readsTable_of_ne object nofun)
  rw [readElement_eq read object]
  simp [settleElement, misplaced]

theorem exists_readFormat {content : String} {style : List (String × Json)}
    (h : (text content style).ElementOf (.obj members)) (read : readElement (.obj members) = .ok e) :
    ∃ f, Template.readFormat (.obj style) = .ok f := by
  obtain ⟨raw, parts, _⟩ := Checked.andThen_eq_ok read
  obtain ⟨_, same, parts, _⟩ := readObject_eq_ok_iff.mp parts
  cases same
  have format := (reads_of_readRawElement parts).format
  obtain ⟨_, _, _, present | ⟨_, rfl⟩⟩ := h
  · rcases optional_eq_ok_iff.mp format with ⟨absent, _⟩ | ⟨w, found, passes⟩
    · cases present.symm.trans absent
    · cases present.symm.trans found
      exact ⟨_, passes⟩
  · exact ⟨{}, rfl⟩

theorem readElement_eq_ok_iff {c : Addition} {v : Json} (h : c.ElementOf v) :
    readElement v = .ok e ↔ c.check = .ok e := by
  obtain ⟨members, rfl, _⟩ := h.object
  cases c with
  | list kind items indent =>
    rw [readElement_list h, Checked.ofRefusal_eq_ok_iff, checkList_eq, check, explain]
    cases Writer.readList kind items indent <;> simp [Except.map, Except.mapError]
  | pageBreak =>
    rw [readElement_bare (.inl rfl) h.kind h.object]
    simp [settleElement, misplaced, check]
  | rule =>
    rw [readElement_bare (.inr rfl) h.kind h.object]
    simp [settleElement, misplaced, check]
  | table rows columns headers data =>
    rw [readElement_table h, check]
    by_cases small : rows < 1 ∨ columns < 1
    · simp [small]
    · simp [small, eq_comm]
  | text content style =>
    rw [check, readStyle_obj]
    cases read : Template.readFormat (.obj style) with
    | ok f =>
      rw [readElement_text h read]
      simp [Checked.toExcept, Except.map, Except.mapError]
    | refused findings =>
      constructor
      · intro passes
        obtain ⟨f, passed⟩ := exists_readFormat h passes
        cases read.symm.trans passed
      · intro passes
        cases passes

end Addition

/-! ## What is appended -/

section

variable (w : Writer σ) (id : DocumentId)

/-- The element is written at the end of the document; if it is a table, it is then filled in. -/
def Contents.ofElement (operation : String) (e : Element) : Contents where
  operation := operation
  edits stop := Replay.batch stop [e.passage]
  jobs := e.job?.toList

def appendElement (operation : String) (e : Element) : Action σ Update :=
  w.inTwoPhases id (.ofElement operation e)

theorem alike_appendElement (operation operation' : String) (e : Element) :
    (w.appendElement id operation e).Alike (w.appendElement id operation' e) :=
  alike_inTwoPhases w id (.ofElement operation e) operation'

theorem populate_nil : w.populate id [] = pure 0 :=
  rfl

theorem append_eq (operation : String) {build : Builder → Except Refusal Builder} {e : Element}
    (builds : ∀ b, build b = .ok (extend b [e.passage])) (jobless : e.job? = none) :
    w.append id operation build = w.appendElement id operation e := by
  unfold append appendElement inTwoPhases firstPhase Contents.ofElement
  simp only [jobless, Option.toList_none, populate_nil, endOf_bind, bind_assoc]
  congr 1
  funext document
  have written := editsAt_eq (one_le_endIndex (Snapshot.ofJson document)) build (builds _)
  simp only [written, submitEdits_ok, Contents.measure, checkEncodable_false, Action.settled_ok,
    Action.warn_nil, pure_bind]
  rfl

theorem Addition.append_eq (c : Addition) :
    c.append w id = .settled c.check >>= w.appendElement id c.operation := by
  cases c with
  | list kind items indent =>
    rw [append, appendList, check]
    cases explain (Writer.readList kind items indent) with
    | error f => rfl
    | ok read =>
      exact Writer.append_eq w id _ (fun b => Template.writeList_eq_extend b read items indent) rfl
  | pageBreak =>
    exact Writer.append_eq w id _ (fun b => congrArg Except.ok (insertPageBreak_eq_extend b)) rfl
  | rule =>
    exact Writer.append_eq w id _ (fun b => congrArg Except.ok (insertText_eq_extend b _)) rfl
  | table rows columns headers data =>
    rw [append, check]
    by_cases small : rows < 1 ∨ columns < 1
    · rw [appendTable, if_pos small, if_pos small]
      rfl
    · rw [appendTable_eq w id (by omega) (by omega), if_neg small]
      rfl
  | text content style =>
    have line : checkText (content ++ "\n") = .ok () := if_neg (Text.append_ne (by decide))
    rw [append, appendStyled, line, check]
    cases readStyle (.obj style) with
    | error f => rfl
    | ok format =>
      exact Writer.append_eq w id _
        (fun b => Template.writeText_eq_extend b (content ++ "\n") format) rfl

theorem appendTemplate_of_single {given : Json} {e : Element} (proper : e.Proper)
    (read : Template.ofJson given = .ok ⟨none, [], [e]⟩) :
    w.appendTemplate id given = w.appendElement id "apply_template" e := by
  have compiled (stop : Int) (first : 1 ≤ stop) :
      compiledAt ⟨none, [], [e]⟩ stop = ⟨Replay.batch stop [e.passage], e.job?.toList, []⟩ := by
    rw [compiledAt, compile_single proper first]
  have jobs : Template.jobs ⟨none, [], [e]⟩ = e.job?.toList := by
    rw [← (compile_eq_compiledAt (proper_of_ofJson read) (Int.le_refl 1)).2,
      compiled 1 (Int.le_refl 1)]
  rw [appendTemplate_eq w id (Draft.ofJson_eq read)]
  unfold appendElement inTwoPhases firstPhase Contents.ofDraft Contents.ofElement
  simp only [jobs, endOf_bind, bind_assoc]
  congr 1
  funext document
  have first := one_le_endIndex (Snapshot.ofJson document)
  have quiet : Draft.warnings ⟨⟨none, [], [e]⟩, false⟩ (Snapshot.ofJson document).endIndex = [] := by
    simp only [Draft.warnings, compile_single proper first]
    rfl
  simp only [compiled _ first, quiet, Contents.measure]

/-- Arguments are turned away before anything is done. -/
def Action.Rejects (a : Action σ α) (s : Session σ) : Prop :=
  ∃ f, Unfit f ∧ a s = (.error f, s)

theorem not_rejects_appendElement (operation : String) (e : Element) (s : Session σ) :
    ¬(w.appendElement id operation e).Rejects s := by
  rintro ⟨f, _, rejected⟩
  obtain ⟨r, u, xs, run, made, phases⟩ := phases_inTwoPhases w id (.ofElement operation e) s
  have unchanged : u = s := congrArg Prod.snd (run.symm.trans rejected)
  subst unchanged
  have none : xs = [] := List.append_right_eq_self.mp made.symm
  exact phases.nonempty none

end

theorem Addition.unfit_check {c : Addition} {f : Failure} (h : c.check = .error f) : Unfit f := by
  cases c with
  | list => exact unfit_explain (error_of_map h)
  | pageBreak | rule => cases h
  | table =>
    rw [check] at h
    split at h
    · cases h
      trivial
    · cases h
  | text => exact unfit_readStyle (error_of_map h)

/-! ## Both ways -/

theorem Addition.rejects_append_iff {c : Addition} {v : Json} (h : c.ElementOf v) (w : Writer σ)
    (id : DocumentId) (s : Session σ) :
    (c.append w id).Rejects s ↔ ∀ e, readElement v ≠ .ok e := by
  simp only [ne_eq, readElement_eq_ok_iff h]
  rw [c.append_eq]
  cases checked : c.check with
  | error f =>
    refine ⟨fun _ _ => nofun, fun _ => ⟨f, unfit_check checked, ?_⟩⟩
    exact Action.bind_of_error rfl _
  | ok e =>
    constructor
    · exact fun rejects => absurd rejects (not_rejects_appendElement w id _ e s)
    · exact fun never => absurd rfl (never e)

theorem rejects_appendTemplate_of_error {given v element : Json} (single : IsSingle element v)
    (holds : Holds given v) {why : Invalid} (h : Template.ofJson given = .error why) (w : Writer σ)
    (id : DocumentId) (s : Session σ) : (w.appendTemplate id given).Rejects s := by
  obtain ⟨members, rfl, _⟩ := single.object
  have read := ofJson_of_holds holds
  cases found : (readTemplate (.obj members)).toExcept with
  | ok t =>
    rw [found] at read
    cases h.symm.trans read
  | error findings =>
    rw [found] at read
    have failed : Draft.ofJson given = .error (Invalid.rules findings).toFailure := by
      simp only [Draft.ofJson, read, Except.mapError]
    refine ⟨(Invalid.rules findings).toFailure, trivial, ?_⟩
    rw [appendTemplate, failed]
    rfl

/-- What can be appended by a call of its own may as well be appended as a template whose only
content is such an element. Both ways reject the same arguments, before anything is done. If they
accept them, they make the same calls, and their outcome is the same. -/
theorem appended_as_template {c : Addition} {given v element : Json} (asks : c.ElementOf element)
    (single : IsSingle element v) (holds : Holds given v) (w : Writer σ) (id : DocumentId)
    (s : Session σ) :
    ((c.append w id).Rejects s ↔ ∃ why, Template.ofJson given = .error why) ∧
    ((w.appendTemplate id given).Rejects s ↔ ∃ why, Template.ofJson given = .error why) ∧
    ((∃ t, Template.ofJson given = .ok t) → ∃ r t u,
      c.append w id s = (r, t) ∧ w.appendTemplate id given s = (r, u) ∧ t.Alike u ∧
      t.history.flatMap Entry.calls = u.history.flatMap Entry.calls) := by
  cases h : Template.ofJson given with
  | error why =>
    have never (e : Element) : readElement element ≠ .ok e := by
      intro read
      cases h.symm.trans ((accepted_single_iff single holds).mpr ⟨e, read, rfl⟩)
    have rejects := (Addition.rejects_append_iff asks w id s).mpr never
    have rejects' := rejects_appendTemplate_of_error single holds h w id s
    refine ⟨iff_of_true rejects ⟨why, rfl⟩, iff_of_true rejects' ⟨why, rfl⟩, ?_⟩
    rintro ⟨t, accepted⟩
    cases accepted
  | ok t =>
    obtain ⟨e, read, rfl⟩ := (accepted_single_iff single holds).mp h
    have direct : c.append w id = w.appendElement id c.operation e := by
      rw [c.append_eq, (Addition.readElement_eq_ok_iff asks).mp read, Action.settled_ok, pure_bind]
    have template := appendTemplate_of_single w id (proper_readElement read) h
    rw [direct, template]
    refine ⟨iff_of_false (not_rejects_appendElement w id _ e s) nofun,
      iff_of_false (not_rejects_appendElement w id _ e s) nofun, fun _ => ?_⟩
    obtain ⟨r, t, u, run, run', alike⟩ :=
      (alike_appendElement w id c.operation "apply_template" e).run (.refl s)
    exact ⟨r, t, u, run, run', alike, alike.calls⟩

/-- A table of one cell, with a header for it. -/
def headedTable : Addition :=
  .table 1 1 ["A"] []

def headedElement : Json :=
  .obj [("type", .str "table"), ("rows", .num (.int 1)), ("columns", .num (.int 1)),
    ("headers", .arr [.str "A"])]

/-- A table without rows. -/
def emptyTable : Addition :=
  .table 0 1 [] []

/-- Rows and cells are left out. -/
def emptyElement : Json :=
  .obj [("columns", .num (.int 1)), ("type", .str "table")]

def templateOf (element : Json) : Json :=
  .obj [("elements", .arr [element])]

theorem isSingle_templateOf (element : Json) : IsSingle element (templateOf element) where
  object := ⟨_, rfl, by simp⟩
  untitled := nofun
  undivided := nofun
  elements := rfl

theorem headedTable_as_template : (∃ r t u,
    headedTable.append scripted (some "doc") ⟨[], 0, []⟩ = (r, t) ∧
    scripted.appendTemplate (some "doc") (templateOf headedElement) ⟨[], 0, []⟩ = (r, u) ∧
    t.Alike u ∧ t.history.flatMap Entry.calls = u.history.flatMap Entry.calls) ∧
    (emptyTable.append scripted (some "doc")).Rejects ⟨[], 0, []⟩ ∧
    ∃ why, Template.ofJson (templateOf emptyElement) = .error why := by
  have headed : headedTable.ElementOf headedElement :=
    ⟨⟨_, rfl, rfl⟩, ⟨_, rfl, by decide⟩, .inl rfl, .inl rfl, .inl rfl, .inr ⟨rfl, rfl⟩⟩
  have empty : emptyTable.ElementOf emptyElement :=
    ⟨⟨_, rfl, rfl⟩, ⟨_, rfl, by decide⟩, .inr ⟨rfl, rfl⟩, .inl rfl, .inr ⟨rfl, rfl⟩, .inr ⟨rfl, rfl⟩⟩
  have read := (Addition.readElement_eq_ok_iff headed).mpr rfl
  have accepted := (accepted_single_iff (isSingle_templateOf headedElement) (.inl rfl)).mpr
    ⟨_, read, rfl⟩
  have rejected : (emptyTable.append scripted (some "doc")).Rejects ⟨[], 0, []⟩ :=
    (Addition.rejects_append_iff empty _ _ _).mpr fun e read =>
      nomatch (Addition.readElement_eq_ok_iff empty).mp read
  obtain ⟨_, _, same⟩ := appended_as_template headed (isSingle_templateOf headedElement) (.inl rfl)
    scripted (some "doc") ⟨[], 0, []⟩
  obtain ⟨refused, _, _⟩ := appended_as_template empty (isSingle_templateOf emptyElement) (.inl rfl)
    scripted (some "doc") ⟨[], 0, []⟩
  exact ⟨same ⟨_, accepted⟩, rejected, refused.mp rejected⟩

end Docwright.Writer
