import Docwright.Edit.Builder
import Docwright.Proofs.Replay.Batch
import Mathlib.Data.List.Forall2

/-!
Batches by what they write: texts with ranges to be formatted in them, page breaks and tables, one
behind the other from a cursor on. `batch` gives the edits of such a list. Carried out, they leave
the texts and breaks in order, behind them the tables with the last one first (`replayFrom_batch`),
and every range on the part of its text that it was made for (`forall₂_delimits_batch`).
-/

namespace Docwright.Replay

open Edit

/-- A range in a text: how many units it skips, how many it covers and what they are set to. -/
structure Ranged where
  start : Nat
  width : Nat
  format : Format

def Ranged.span (r : Ranged) (c : Int) : Span :=
  ⟨c + r.start, c + r.start + r.width, by omega⟩

def Ranged.edit (c : Int) (r : Ranged) : Operation :=
  r.format.over (r.span c)

inductive Passage where
  | text (content : String) (ranges : List Ranged)
  | pageBreak
  | table (rows columns : Int)

namespace Passage

/-- How far a passage moves the cursor; the size of a table is not known to it. -/
def width : Passage → Nat
  | .text content _ => Text.width content
  | .pageBreak => 2
  | .table .. => 0

def edits (c : Int) : Passage → List Operation
  | .text content ranges =>
    (if content = "" then [] else [.insertText c content]) ++ ranges.map (Ranged.edit c)
  | .pageBreak => [.insertPageBreak c]
  | .table rows columns => [.insertTable c rows columns]

def count (p : Passage) : Nat :=
  (p.edits 0).length

/-- The marks in front of which the cursor does not stay. -/
def marks (n : Nat) : Passage → Body
  | .text content _ => textMarks n content
  | .pageBreak => breakMarks n
  | .table .. => []

def tableMarks (lay : Nat → Layout) (n : Nat) : Passage → Body
  | .table rows columns => Replay.tableMarks n rows columns (lay n)
  | _ => []

/-- The text that a passage inserts. -/
def content : Passage → String
  | .text content _ => content
  | _ => ""

def IsText : Passage → Prop
  | .text content _ => content ≠ ""
  | _ => False

/-- No range is empty or leaves its text. -/
def Fits : Passage → Prop
  | .text content ranges => ∀ r ∈ ranges, 0 < r.width ∧ r.start + r.width ≤ Text.width content
  | _ => True

end Passage

def batch (c : Int) : List Passage → List Operation
  | [] => []
  | p :: ps => p.edits c ++ batch (c + p.width) ps

def totalWidth : List Passage → Nat
  | [] => 0
  | p :: ps => p.width + totalWidth ps

/-- The texts and breaks of passages whose first edit is edit `n`. -/
def flow (n : Nat) : List Passage → Body
  | [] => []
  | p :: ps => p.marks n ++ flow (n + p.count) ps

/-- The tables of passages whose first edit is edit `n`, the last one first. -/
def stack (lay : Nat → Layout) (n : Nat) : List Passage → Body
  | [] => []
  | p :: ps => stack lay (n + p.count) ps ++ p.tableMarks lay n

/-- A range that is to be set in a text with `offset` marks of the batch in front of it. -/
structure Target where
  offset : Nat
  text : String
  range : Ranged

def Passage.targets (offset : Nat) : Passage → List Target
  | .text content ranges => ranges.map (⟨offset, content, ·⟩)
  | _ => []

def targets (offset : Nat) : List Passage → List Target
  | [] => []
  | p :: ps => p.targets offset ++ targets (offset + p.width) ps

/-- A builder that has been given a list of passages. -/
def extend (b : Builder) (ps : List Passage) : Builder :=
  ⟨b.cursor + totalWidth ps, b.operations ++ batch b.cursor ps⟩

theorem Passage.length_edits (c : Int) (p : Passage) : (p.edits c).length = p.count := by
  cases p with
  | text content ranges =>
    simp only [edits, count, List.length_append, List.length_map]
    split <;> rfl
  | pageBreak | table => rfl

theorem Passage.length_marks (n : Nat) (p : Passage) : (p.marks n).length = p.width := by
  cases p with
  | text content ranges => exact length_textMarks n content
  | pageBreak | table => rfl

theorem insertedTexts_append (xs ys : List Operation) :
    insertedTexts (xs ++ ys) = insertedTexts xs ++ insertedTexts ys :=
  List.filterMap_append

theorem insertedTexts_ranges (c : Int) (ranges : List Ranged) :
    insertedTexts (ranges.map (Ranged.edit c)) = [] := by
  apply List.filterMap_eq_nil_iff.mpr
  intro op hop
  obtain ⟨r, _, rfl⟩ := List.mem_map.mp hop
  cases h : r.format <;> simp only [Ranged.edit, h, Format.over]

theorem insertedTexts_batch (c : Int) {ps : List Passage} (h : ∀ p ∈ ps, p.IsText) :
    insertedTexts (batch c ps) = ps.map Passage.content := by
  induction ps generalizing c with
  | nil => rfl
  | cons p ps ih =>
    have tail := ih (c + p.width) fun q hq => h q (List.mem_cons_of_mem _ hq)
    cases p with
    | pageBreak | table => exact absurd (h _ List.mem_cons_self) id
    | text content ranges =>
      have nonempty : content ≠ "" := h _ List.mem_cons_self
      simp only [batch, Passage.edits, nonempty, ↓reduceIte, insertedTexts_append, tail,
        insertedTexts_ranges, List.append_nil, List.map_cons, Passage.content]
      rfl

theorem contents_flow (n : Nat) {ps : List Passage} (h : ∀ p ∈ ps, p.IsText) :
    contents (flow n ps) = textContents (String.join (ps.map Passage.content)) := by
  induction ps generalizing n with
  | nil => rfl
  | cons p ps ih =>
    have tail := ih (n + p.count) fun q hq => h q (List.mem_cons_of_mem _ hq)
    cases p with
    | pageBreak | table => exact absurd (h _ List.mem_cons_self) id
    | text content ranges =>
      simp only [flow, Passage.marks, contents_append, contents_textMarks, tail, List.map_cons,
        Passage.content, String.join_cons, textContents_append]

theorem stack_eq_nil (lay : Nat → Layout) (n : Nat) {ps : List Passage} (h : ∀ p ∈ ps, p.IsText) :
    stack lay n ps = [] := by
  induction ps generalizing n with
  | nil => rfl
  | cons p ps ih =>
    have tail := ih (n + p.count) fun q hq => h q (List.mem_cons_of_mem _ hq)
    cases p with
    | pageBreak | table => exact absurd (h _ List.mem_cons_self) id
    | text content ranges => simp only [stack, tail, Passage.tableMarks, List.append_nil]

theorem totalWidth_append (ps qs : List Passage) :
    totalWidth (ps ++ qs) = totalWidth ps + totalWidth qs := by
  induction ps with
  | nil => simp [totalWidth]
  | cons p ps ih => simp only [List.cons_append, totalWidth, ih, Nat.add_assoc]

theorem batch_append (c : Int) (ps qs : List Passage) :
    batch c (ps ++ qs) = batch c ps ++ batch (c + totalWidth ps) qs := by
  induction ps generalizing c with
  | nil => simp [batch, totalWidth]
  | cons p ps ih =>
    have shift : c + p.width + totalWidth ps = c + totalWidth (p :: ps) := by
      simp only [totalWidth]; omega
    simp only [List.cons_append, batch, ih, shift, List.append_assoc]

theorem targets_append (offset : Nat) (ps qs : List Passage) :
    targets offset (ps ++ qs) = targets offset ps ++ targets (offset + totalWidth ps) qs := by
  induction ps generalizing offset with
  | nil => rfl
  | cons p ps ih =>
    rw [List.cons_append, targets, ih, targets, totalWidth, List.append_assoc, Nat.add_assoc]

@[simp] theorem extend_nil (b : Builder) : extend b [] = b := by
  simp [extend, batch, totalWidth]

theorem extend_append (b : Builder) (ps qs : List Passage) :
    extend b (ps ++ qs) = extend (extend b ps) qs := by
  simp only [extend, batch_append, totalWidth_append, List.append_assoc, Builder.mk.injEq, and_true]
  omega

theorem Ranged.holds {r : Ranged} {c : Int} {b mid : Body} (rest : Body) (start : c = b.length + 1)
    (fits : r.start + r.width ≤ mid.length) : Holds (b ++ mid ++ rest) (r.span c) := by
  simp only [Holds, Ranged.span, List.length_append]
  omega

theorem replayFrom_ranges (lay : Nat → Layout) (n : Nat) (c : Int) {b mid : Body} (rest : Body)
    (start : c = b.length + 1) {ranges : List Ranged}
    (fits : ∀ r ∈ ranges, r.start + r.width ≤ mid.length) :
    replayFrom lay n (b ++ mid ++ rest) (ranges.map (Ranged.edit c)) = some (b ++ mid ++ rest) := by
  induction ranges generalizing n with
  | nil => rfl
  | cons r rs ih =>
    have head := Ranged.holds rest start (fits r List.mem_cons_self)
    have tail := ih (n + 1) fun r' hr => fits r' (List.mem_cons_of_mem _ hr)
    simp only [List.map_cons, replayFrom, Ranged.edit, carryOut_over lay n r.format head]
    exact tail

/-- A passage goes in front of what stands at the cursor; a table stays there, in front of the rest. -/
theorem Passage.replayFrom_edits (lay : Nat → Layout) (n : Nat) (c : Int) (b rest : Body)
    (start : c = b.length + 1) {p : Passage} (fits : p.Fits) :
    replayFrom lay n (b ++ rest) (p.edits c) =
      some (b ++ p.marks n ++ (p.tableMarks lay n ++ rest)) := by
  cases p with
  | text content ranges =>
    have inside : ∀ r ∈ ranges, r.start + r.width ≤ (textMarks n content).length := by
      intro r hr
      rw [length_textMarks]
      exact (fits r hr).2
    by_cases empty : content = ""
    · subst empty
      have ranged := replayFrom_ranges lay n c rest start inside
      simpa [edits, marks, tableMarks, textMarks, Text.units] using ranged
    · have inserted : replayFrom lay n (b ++ rest) [.insertText c content] =
          some (b ++ textMarks n content ++ rest) := by
        simp only [replayFrom, carryOut, splice_between b _ rest c start, Option.bind_some]
      simp only [edits, empty, ↓reduceIte]
      rw [replayFrom_append_of inserted]
      exact replayFrom_ranges lay _ c rest start inside
  | pageBreak =>
    simp only [edits, replayFrom, carryOut, splice_between b _ rest c start, Option.bind_some]
    rfl
  | table rows columns =>
    simp only [edits, replayFrom, carryOut, splice_between b _ rest c start, Option.bind_some]
    simp only [marks, tableMarks, List.append_nil, List.append_assoc]

theorem replayFrom_batch (lay : Nat → Layout) (n : Nat) (c : Int) (b rest : Body)
    (start : c = b.length + 1) {ps : List Passage} (fits : ∀ p ∈ ps, p.Fits) :
    replayFrom lay n (b ++ rest) (batch c ps) =
      some (b ++ flow n ps ++ (stack lay n ps ++ rest)) := by
  induction ps generalizing n c b rest with
  | nil => simp [batch, replayFrom, flow, stack]
  | cons p ps ih =>
    have first := p.replayFrom_edits lay n c b rest start (fits p List.mem_cons_self)
    have next : c + p.width = (b ++ p.marks n).length + 1 := by
      rw [List.length_append, p.length_marks]; omega
    have more := ih (n + p.count) (c + p.width) (b ++ p.marks n) (p.tableMarks lay n ++ rest) next
      fun q hq => fits q (List.mem_cons_of_mem _ hq)
    rw [batch, replayFrom_append_of first, p.length_edits, more]
    simp only [flow, stack, List.append_assoc]

/-- Range edit `e` of the batch `ops` sets `t`: nothing but the marks that an earlier insertion has
brought for the part of the text that `t` names, both when the edit is made and in the end. -/
structure Delimits (lay : Nat → Layout) (ops : List Operation) (old : List Content) (c : Int)
    (final : Body) (e : RangeEdit) (t : Target) : Prop where
  format : e.format = t.range.format
  start : e.span.start = c + t.offset + t.range.start
  stop : e.span.stop = e.span.start + t.range.width
  nonempty : e.span.start < e.span.stop
  made : ∃ m < e.number, ops[m]? = some (.insertText (c + t.offset) t.text) ∧
    slice final e.span = ((textMarks m t.text).drop t.range.start).take t.range.width ∧
    ∃ now, replay lay (ops.take e.number) old = some now ∧ slice now e.span = slice final e.span

section

variable {lay : Nat → Layout} {ops pre : List Operation} {old : List Content} {c : Int}
  {b rest final more : Body}

theorem forall₂_delimits_ranges {offset m : Nat} {content : String} {ranges : List Ranged}
    {post : List Operation} (start : c + offset = b.length + 1)
    (whole : ops = pre ++ ranges.map (Ranged.edit (c + offset)) ++ post)
    (now : replay lay pre old = some (b ++ textMarks m content ++ rest))
    (later : final = b ++ textMarks m content ++ more)
    (earlier : m < pre.length) (insertion : ops[m]? = some (.insertText (c + offset) content))
    (fits : (Passage.text content ranges).Fits) :
    List.Forall₂ (Delimits lay ops old c final)
      (rangeEdits pre.length (ranges.map (Ranged.edit (c + offset))))
      (ranges.map (⟨offset, content, ·⟩)) := by
  induction ranges generalizing pre with
  | nil => exact .nil
  | cons r rs ih =>
    obtain ⟨positive, inside⟩ := fits r List.mem_cons_self
    have inside' : r.start + r.width ≤ (textMarks m content).length := by
      rwa [length_textMarks]
    have covered (tail : Body) : slice (b ++ textMarks m content ++ tail) (r.span (c + offset)) =
        ((textMarks m content).drop r.start).take r.width :=
      slice_within _ _ _ _ r.start r.width (by simp only [Ranged.span]; omega) rfl inside'
    have take : ops.take pre.length = pre := by
      rw [whole, List.append_assoc, List.take_left]
    have edited : replay lay (pre ++ [r.edit (c + offset)]) old =
        some (b ++ textMarks m content ++ rest) := by
      have one : replayFrom lay (0 + pre.length) (b ++ textMarks m content ++ rest)
          [r.edit (c + offset)] = some (b ++ textMarks m content ++ rest) :=
        replayFrom_ranges lay _ _ rest start (by
          intro r' hr
          rw [List.mem_singleton.mp hr]
          exact inside')
      exact (replayFrom_append_of now _).trans one
    have remaining : ops =
        pre ++ [r.edit (c + offset)] ++ rs.map (Ranged.edit (c + offset)) ++ post := by
      simp only [whole, List.map_cons, List.append_assoc, List.cons_append, List.nil_append]
    have tail := ih remaining edited (by rw [List.length_append]; omega)
      fun r' hr => fits r' (List.mem_cons_of_mem _ hr)
    rw [List.map_cons, List.map_cons, Ranged.edit, rangeEdits, rangeOf_over]
    refine .cons ?_ (by simpa using tail)
    exact {
      format := rfl
      start := rfl
      stop := rfl
      nonempty := by simp only [Ranged.span]; omega
      made := ⟨m, earlier, insertion, later ▸ covered more, _, take.symm ▸ now, by
        rw [later, covered, covered]⟩ }

theorem rangeEdits_passage (n : Nat) (content : String) (ranges : List Ranged) :
    rangeEdits n ((Passage.text content ranges).edits c) =
      rangeEdits (n + if content = "" then 0 else 1) (ranges.map (Ranged.edit c)) := by
  by_cases empty : content = "" <;> simp [Passage.edits, empty, rangeEdits, rangeOf]

theorem Passage.forall₂_delimits {offset : Nat} {p : Passage} {post : List Operation}
    (start : c + offset = b.length + 1) (whole : ops = pre ++ p.edits (c + offset) ++ post)
    (now : replay lay pre old = some (b ++ rest)) (later : final = b ++ p.marks pre.length ++ more)
    (fits : p.Fits) :
    List.Forall₂ (Delimits lay ops old c final) (rangeEdits pre.length (p.edits (c + offset)))
      (p.targets offset) := by
  cases p with
  | pageBreak | table => exact .nil
  | text content ranges =>
    by_cases empty : content = ""
    · subst empty
      cases ranges with
      | nil => exact .nil
      | cons r rs =>
        have := fits r List.mem_cons_self
        simp only [Text.width_empty] at this
        omega
    · rw [rangeEdits_passage]
      simp only [edits, empty, ↓reduceIte] at whole ⊢
      have insertion : ops[pre.length]? = some (.insertText (c + offset) content) := by
        rw [whole]; simp
      have inserted : replay lay (pre ++ [.insertText (c + offset) content]) old =
          some (b ++ textMarks pre.length content ++ rest) := by
        refine (replayFrom_append_of now _).trans ?_
        simp only [replayFrom, carryOut, splice_between b _ rest _ start, Option.bind_some,
          Nat.zero_add]
      have remaining : ops = pre ++ [.insertText (c + offset) content] ++
          ranges.map (Ranged.edit (c + offset)) ++ post := by
        rw [whole]; simp only [List.append_assoc]
      have := forall₂_delimits_ranges start remaining inserted later (by simp) insertion fits
      simpa [targets] using this

/-- Every range edit of a batch sets its target, and there are no others. -/
theorem forall₂_delimits_batch {offset : Nat} {ps : List Passage}
    (start : c + offset = b.length + 1) (whole : ops = pre ++ batch (c + offset) ps)
    (now : replay lay pre old = some (b ++ rest))
    (later : final = b ++ flow pre.length ps ++ more) (fits : ∀ p ∈ ps, p.Fits) :
    List.Forall₂ (Delimits lay ops old c final) (rangeEdits pre.length (batch (c + offset) ps))
      (targets offset ps) := by
  induction ps generalizing pre b rest offset with
  | nil => exact .nil
  | cons p ps ih =>
    have fit := fits p List.mem_cons_self
    have shift : c + offset + p.width = c + (offset + p.width : Nat) := by omega
    have first : ops = pre ++ p.edits (c + offset) ++ batch (c + (offset + p.width : Nat)) ps := by
      rw [whole, batch, List.append_assoc, shift]
    have behind : final =
        b ++ p.marks pre.length ++ (flow (pre.length + p.count) ps ++ more) := by
      rw [later, flow]; simp only [List.append_assoc]
    have here := p.forall₂_delimits start first now behind fit
    have after : replay lay (pre ++ p.edits (c + offset)) old =
        some (b ++ p.marks pre.length ++ (p.tableMarks lay pre.length ++ rest)) := by
      refine (replayFrom_append_of now _).trans ?_
      rw [Nat.zero_add]
      exact p.replayFrom_edits lay pre.length _ b rest start fit
    have behind' : final = b ++ p.marks pre.length ++
        flow (pre ++ p.edits (c + offset)).length ps ++ more := by
      rw [behind, List.length_append, p.length_edits]; simp only [List.append_assoc]
    have there := ih (by rw [List.length_append, p.length_marks]; omega) first after behind'
      fun q hq => fits q (List.mem_cons_of_mem _ hq)
    rw [List.length_append, p.length_edits] at there
    rw [batch, rangeEdits_append, p.length_edits, targets, shift]
    exact List.rel_append here there

end

/-! ## A batch on a document -/

/-- What stands in front of a position, and what stands from it on. -/
def front (old : List Content) (c : Int) : List Content :=
  old.take (c - 1).toNat

def back (old : List Content) (c : Int) : List Content :=
  old.drop (c - 1).toNat

def outcome (lay : Nat → Layout) (c : Int) (ps : List Passage) (old : List Content) : Body :=
  before (front old c) ++ flow 0 ps ++ (stack lay 0 ps ++ before (back old c))

section

variable {c : Int} {old : List Content} {ps : List Passage}

theorem before_eq (c : Int) (old : List Content) :
    before old = before (front old c) ++ before (back old c) := by
  rw [before, before, before, front, back, ← List.map_append, List.take_append_drop]

theorem length_front (first : 1 ≤ c) (last : c ≤ old.length + 1) :
    c = (before (front old c)).length + 1 := by
  rw [length_before, front, List.length_take]; omega

theorem replay_batch (lay : Nat → Layout) (first : 1 ≤ c) (last : c ≤ old.length + 1)
    (fits : ∀ p ∈ ps, p.Fits) : replay lay (batch c ps) old = some (outcome lay c ps old) := by
  rw [replay, before_eq c old]
  exact replayFrom_batch lay 0 c _ _ (length_front first last) fits

theorem delimits_batch (lay : Nat → Layout) (first : 1 ≤ c) (last : c ≤ old.length + 1)
    (fits : ∀ p ∈ ps, p.Fits) :
    List.Forall₂ (Delimits lay (batch c ps) old c (outcome lay c ps old))
      (rangeEdits 0 (batch c ps)) (targets 0 ps) := by
  have offset : c + (0 : Nat) = c := Int.add_zero c
  have whole : batch c ps = [] ++ batch (c + (0 : Nat)) ps := by rw [offset, List.nil_append]
  have now : replay lay [] old = some (before (front old c) ++ before (back old c)) :=
    congrArg some (before_eq c old)
  have later : outcome lay c ps old = before (front old c) ++ flow ([] : List Operation).length ps ++
      (stack lay 0 ps ++ before (back old c)) := rfl
  have all := forall₂_delimits_batch (offset.trans (length_front first last)) whole now later fits
  rwa [offset] at all

end

end Docwright.Replay
