import Docwright.Edit.Operation
import Docwright.Snapshot.Table
import Docwright.Text.Units

/-!
Documents as the service holds them: a flat sequence of marks, the first one at position one. A
mark remembers the edit that brought it, so that it can be told later what a range covers.
-/

namespace Docwright.Replay

open Edit (Span)

/-- How the service lays out a table: the number of marks behind its first one, and the offsets at
which its cells can be written to. -/
structure Layout where
  inner : Nat
  cells : List (List (Option Nat))

inductive Content where
  | unit (code : UInt16)
  | pageBreak
  | table (rows columns : Int) (layout : Layout)
  | inTable

/-- The line end at the end of a document. -/
def lineEnd : Content := .unit 10

/-- What stands at a position. Marks that no edit of the batch has brought have no origin. -/
structure Mark where
  content : Content
  origin : Option Nat

abbrev Body := List Mark

def before (contents : List Content) : Body :=
  contents.map (⟨·, none⟩)

def contents (b : Body) : List Content :=
  b.map Mark.content

def textContents (text : String) : List Content :=
  (Text.units text).map .unit

/-- The marks of a text that edit `n` inserts. -/
def textMarks (n : Nat) (text : String) : Body :=
  (Text.units text).map fun u => ⟨.unit u, some n⟩

def breakMarks (n : Nat) : Body :=
  List.replicate 2 ⟨.pageBreak, some n⟩

def tableMarks (n : Nat) (rows columns : Int) (l : Layout) : Body :=
  ⟨.table rows columns l, some n⟩ :: List.replicate l.inner ⟨.inTable, some n⟩

/-- New marks stand in front of what was at the position, which may be the one behind the last. -/
def splice (b : Body) (index : Int) (new : Body) : Option Body :=
  if 1 ≤ index ∧ index ≤ b.length + 1 then
    some (b.take (index - 1).toNat ++ new ++ b.drop (index - 1).toNat)
  else none

def Holds (b : Body) (s : Span) : Prop :=
  1 ≤ s.start ∧ s.stop ≤ b.length + 1

instance (b : Body) (s : Span) : Decidable (Holds b s) :=
  inferInstanceAs (Decidable (_ ∧ _))

/-- The marks of a range. -/
def slice (b : Body) (s : Span) : Body :=
  (b.drop (s.start - 1).toNat).take (s.stop - s.start).toNat

def cutOut (b : Body) (s : Span) : Body :=
  b.take (s.start - 1).toNat ++ b.drop (s.stop - 1).toNat

def Layout.tableAt (l : Layout) (start rows columns : Int) : Snapshot.Table where
  start := start
  stop := start + l.inner + 1
  rows := rows
  columns := columns
  cells := l.cells.map fun row => row.map fun cell => cell.map fun offset => start + offset

/-- A table of a document, with the edit that created it. -/
abbrev Placed := Option Nat × Snapshot.Table

def tablesFrom (position : Int) : Body → List Placed
  | [] => []
  | m :: ms => match m.content with
    | .table rows columns l => (m.origin, l.tableAt position rows columns) :: tablesFrom (position + 1) ms
    | _ => tablesFrom (position + 1) ms

/-- The tables of a document, in order. -/
def tables (b : Body) : List Placed :=
  tablesFrom 1 b

/-- A snapshot that tells where a document ends and which tables it has. -/
structure Reports (s : Snapshot) (b : Body) : Prop where
  ends : (s.getLast?.bind (·.stop)) = some ((b.length : Int) + 1)
  tables : Snapshot.tables s = (tables b).map (·.2)

/-- The structural element of a table. -/
def tableElement (t : Snapshot.Table) : Snapshot.Element where
  start := some t.start
  stop := some t.stop
  paragraph := none
  grid := some { rows := some t.rows, columns := some t.columns, cells := t.cells.map (·.map ([·])) }

/-- A snapshot of a document, with nothing but its tables and the place where it ends. -/
def report (b : Body) : Snapshot :=
  (tables b).map (fun p => tableElement p.2) ++
    [{ start := none, stop := some (b.length + 1), paragraph := none, grid := none }]

@[simp] theorem length_before (cs : List Content) : (before cs).length = cs.length := by
  simp [before]

@[simp] theorem contents_append (a b : Body) : contents (a ++ b) = contents a ++ contents b := by
  simp [contents]

@[simp] theorem contents_before (cs : List Content) : contents (before cs) = cs := by
  simp [contents, before, Function.comp_def]

@[simp] theorem contents_textMarks (n : Nat) (text : String) :
    contents (textMarks n text) = textContents text := by
  simp [contents, textMarks, textContents, Function.comp_def]

@[simp] theorem textContents_append (s t : String) :
    textContents (s ++ t) = textContents s ++ textContents t := by
  simp [textContents]

@[simp] theorem length_textMarks (n : Nat) (text : String) :
    (textMarks n text).length = Text.width text := by
  simp [textMarks, Text.length_units]

theorem origin_of_mem_textMarks {n : Nat} {text : String} {m : Mark} (h : m ∈ textMarks n text) :
    m.origin = some n := by
  obtain ⟨u, _, rfl⟩ := List.mem_map.mp h
  rfl

/-- A unit of a text that stands between others. -/
theorem exists_mark_of_text (b rest : Body) (n : Nat) (text : String) {k : Nat}
    (first : b.length ≤ k) (last : k < b.length + Text.width text) :
    ∃ m, (b ++ textMarks n text ++ rest)[k]? = some m ∧ m.origin = some n := by
  have bound : k - b.length < (textMarks n text).length := by
    rw [length_textMarks]
    omega
  refine ⟨_, ?_, origin_of_mem_textMarks (List.getElem_mem bound)⟩
  rw [List.getElem?_append_left (by rw [List.length_append, length_textMarks]; omega),
    List.getElem?_append_right first, List.getElem?_eq_getElem bound]

theorem splice_between (b new rest : Body) (index : Int) (h : index = b.length + 1) :
    splice (b ++ rest) index new = some (b ++ new ++ rest) := by
  have offset : (index - 1).toNat = b.length := by omega
  have bounds : 1 ≤ index ∧ index ≤ (b ++ rest).length + 1 := by
    simp only [List.length_append]; omega
  simp only [splice, bounds, and_self, ↓reduceIte, offset, List.take_left, List.drop_left]

theorem slice_between (b mid rest : Body) (s : Span) (start : s.start = b.length + 1)
    (stop : s.stop = b.length + mid.length + 1) : slice (b ++ mid ++ rest) s = mid := by
  have offset : (s.start - 1).toNat = b.length := by omega
  have width : (s.stop - s.start).toNat = mid.length := by omega
  simp only [slice, offset, width, List.append_assoc, List.drop_left, List.take_left]

/-- A part of what stands between. -/
theorem slice_within (b mid rest : Body) (s : Span) (skip width : Nat)
    (start : s.start = b.length + 1 + skip) (stop : s.stop = s.start + width)
    (fits : skip + width ≤ mid.length) :
    slice (b ++ mid ++ rest) s = (mid.drop skip).take width := by
  have front : (b ++ mid.take skip).length = b.length + skip := by
    simp only [List.length_append, List.length_take]; omega
  have part : ((mid.drop skip).take width).length = width := by
    simp only [List.length_take, List.length_drop]; omega
  have split : mid = mid.take skip ++ (mid.drop skip).take width ++ mid.drop (skip + width) := by
    rw [List.append_assoc, ← List.drop_drop, List.take_append_drop, List.take_append_drop]
  have whole : b ++ mid ++ rest =
      (b ++ mid.take skip) ++ (mid.drop skip).take width ++ (mid.drop (skip + width) ++ rest) :=
    calc b ++ mid ++ rest
        = b ++ (mid.take skip ++ (mid.drop skip).take width ++ mid.drop (skip + width)) ++ rest := by
          rw [← split]
      _ = _ := by simp only [List.append_assoc]
  rw [whole]
  exact slice_between _ _ _ s (by rw [front]; omega) (by rw [front, part]; omega)

theorem tablesFrom_append (position : Int) (a b : Body) :
    tablesFrom position (a ++ b) = tablesFrom position a ++ tablesFrom (position + a.length) b := by
  induction a generalizing position with
  | nil => simp [tablesFrom]
  | cons m ms ih =>
    have shift : position + 1 + (ms.length : Int) = position + (m :: ms).length := by
      simp only [List.length_cons]; omega
    simp only [List.cons_append, tablesFrom, ih, shift]
    split <;> rfl

/-- Only the first mark of a table counts as a table. -/
theorem tablesFrom_eq_nil {b : Body} (h : ∀ m ∈ b, ∀ r c l, m.content ≠ .table r c l)
    (position : Int) : tablesFrom position b = [] := by
  induction b generalizing position with
  | nil => rfl
  | cons m ms ih =>
    have head := h m List.mem_cons_self
    have tail := ih (fun m' hm => h m' (List.mem_cons_of_mem _ hm)) (position + 1)
    cases hc : m.content with
    | table r c l => exact absurd hc (head r c l)
    | unit | pageBreak | inTable => simpa only [tablesFrom, hc] using tail

theorem tablesFrom_tableMarks (position : Int) (n : Nat) (rows columns : Int) (l : Layout) :
    tablesFrom position (tableMarks n rows columns l) =
      [(some n, l.tableAt position rows columns)] := by
  have none : tablesFrom (position + 1) (List.replicate l.inner ⟨.inTable, some n⟩) = [] := by
    apply tablesFrom_eq_nil
    intro m hm r c l' hc
    rw [List.eq_of_mem_replicate hm] at hc
    cases hc
  simp only [tableMarks, tablesFrom, none]

theorem tablesFrom_range (b : Body) (position : Int) :
    ∀ t ∈ tablesFrom position b, position ≤ t.2.start ∧ t.2.start < position + b.length := by
  induction b generalizing position with
  | nil => intro t ht; cases ht
  | cons m ms ih =>
    have deeper : ∀ t ∈ tablesFrom (position + 1) ms,
        position ≤ t.2.start ∧ t.2.start < position + (m :: ms).length := by
      intro t ht
      have := ih (position + 1) t ht
      simp only [List.length_cons]; omega
    intro t ht
    cases hc : m.content with
    | table r c l =>
      simp only [tablesFrom, hc, List.mem_cons] at ht
      rcases ht with rfl | ht
      · simp only [Layout.tableAt, List.length_cons]; omega
      · exact deeper t ht
    | unit | pageBreak | inTable => exact deeper t (by simpa only [tablesFrom, hc] using ht)

/-- Tables stand at different positions, in the order in which they are listed. -/
theorem tablesFrom_ascending (b : Body) (position : Int) :
    (tablesFrom position b).Pairwise fun t u => t.2.start < u.2.start := by
  induction b generalizing position with
  | nil => exact List.Pairwise.nil
  | cons m ms ih =>
    have tail := ih (position + 1)
    cases hc : m.content with
    | table r c l =>
      simp only [tablesFrom, hc, List.pairwise_cons]
      refine ⟨fun u hu => ?_, tail⟩
      have := (tablesFrom_range ms (position + 1) u hu).1
      simp only [Layout.tableAt]; omega
    | unit | pageBreak | inTable => simpa only [tablesFrom, hc] using tail

theorem table?_tableElement (t : Snapshot.Table) : (tableElement t).table? = some t := by
  have cells : (t.cells.map (·.map ([·]))).map (·.map fun cell => cell.head?.join) = t.cells := by
    simp [Function.comp_def]
  simp only [tableElement, Snapshot.Element.table?, Option.map_some, Option.getD_some, cells]

theorem reports_report (b : Body) : Reports (report b) b where
  ends := by simp [report]
  tables := by
    have last : (⟨none, some ((b.length : Int) + 1), none, none⟩ : Snapshot.Element).table? = none := rfl
    have each : Snapshot.Element.table? ∘ (fun p => tableElement p.2) = some ∘ fun p : Placed => p.2 :=
      funext fun p => table?_tableElement p.2
    rw [report, Snapshot.tables, List.filterMap_append, List.filterMap_map, each,
      List.filterMap_cons_none last, List.filterMap_nil, List.append_nil, List.filterMap_eq_map]

end Docwright.Replay
