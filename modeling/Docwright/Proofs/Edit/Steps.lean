import Docwright.Proofs.Replay.Writing
import Mathlib.Data.List.Induction

namespace Docwright.Edit

open Replay

def Builder.run (b : Builder) (steps : List Step) : Builder :=
  steps.foldl Builder.attempt b

/-- The position at which an edit inserts something. -/
def Operation.index? : Operation → Option Int
  | .insertText index _ | .insertTable index _ _ | .insertPageBreak index => some index
  | _ => none

/-- How far an edit moves what stands behind the cursor, if it is no table. -/
def Operation.advance : Operation → Nat
  | .insertText _ text => Text.width text
  | .insertPageBreak _ => 2
  | _ => 0

def advance : List Operation → Nat
  | [] => 0
  | op :: ops => op.advance + advance ops

namespace Step

/-- Why a step is refused, if it is. -/
def refusal? : Step → Option Refusal
  | .nameParagraphs start stop _ | .styleText start stop _ _ | .createList start stop _
  | .deleteRange start stop | .formatParagraphs start stop _ _ =>
    if stop < start then some (.invertedRange start stop) else none
  | .insertTable rows columns => if rows < 1 ∨ columns < 1 then some .tableSize else none
  | .replaceAll find _ _ => if find = "" then some .emptyFind else none
  | .insertText _ | .insertPageBreak | .insertRule => none

/-- What a step writes in front of the cursor. -/
def contents : Step → List Content
  | .insertText text => textContents text
  | .insertRule => textContents Builder.ruleText
  | .insertPageBreak => [.pageBreak, .pageBreak]
  | _ => []

/-- The size of the table that a step creates. -/
def table? : Step → Option (Int × Int)
  | .insertTable rows columns => if rows < 1 ∨ columns < 1 then none else some (rows, columns)
  | _ => none

/-- Steps that never take anything out of a document. -/
def Keeps : Step → Prop
  | .deleteRange .. | .replaceAll .. => False
  | _ => True

/-- The builder after a step that is the first one, at cursor `c`. -/
def alone (c : Int) (s : Step) : Builder :=
  (⟨c, []⟩ : Builder).attempt s

end Step

/-! ## One step -/

theorem map_span_eq_error_iff {start stop : Int} {f : Span → Builder} {r : Refusal} :
    (Span.of start stop).map f = .error r ↔
      (if stop < start then some (Refusal.invertedRange start stop) else none) = some r := by
  by_cases ordered : start ≤ stop
  · have back : ¬stop < start := by omega
    simp [Span.of, ordered, back, Except.map]
  · have back : stop < start := by omega
    simp [Span.of, ordered, back, Except.map]

theorem step_eq_error_iff (b : Builder) (s : Step) (r : Refusal) :
    b.step s = .error r ↔ s.refusal? = some r := by
  cases s with
  | nameParagraphs | styleText | createList | deleteRange | formatParagraphs =>
    exact map_span_eq_error_iff
  | insertText | insertPageBreak | insertRule => simp [Builder.step, Step.refusal?]
  | insertTable rows columns =>
    by_cases small : rows < 1 ∨ columns < 1 <;>
      simp [Builder.step, Builder.insertTable, Step.refusal?, small]
  | replaceAll find replacement matchCase =>
    by_cases empty : find = "" <;> simp [Builder.step, Builder.replaceAll, Step.refusal?, empty]

/-- A step does the same, whatever has been appended before it. -/
theorem step_eq (b : Builder) (s : Step) :
    b.step s = ((⟨b.cursor, []⟩ : Builder).step s).map fun next =>
      ⟨next.cursor, b.operations ++ next.operations⟩ := by
  have along (start stop : Int) (op : Span → Operation) :
      (Span.of start stop).map (fun span => b.push (op span)) =
        ((Span.of start stop).map fun span => (⟨b.cursor, []⟩ : Builder).push (op span)).map
          fun next => ⟨next.cursor, b.operations ++ next.operations⟩ := by
    cases Span.of start stop <;> rfl
  cases s with
  | nameParagraphs | styleText | createList | deleteRange | formatParagraphs => exact along _ _ _
  | insertText text =>
    by_cases empty : text = "" <;> simp [Builder.step, Builder.insertText, empty, Except.map]
  | insertPageBreak | insertRule => rfl
  | insertTable rows columns =>
    by_cases small : rows < 1 ∨ columns < 1 <;>
      simp [Builder.step, Builder.insertTable, small, Except.map, Builder.push]
  | replaceAll find replacement matchCase =>
    by_cases empty : find = "" <;>
      simp [Builder.step, Builder.replaceAll, empty, Except.map, Builder.push]

theorem attempt_eq (b : Builder) (s : Step) :
    b.attempt s = ⟨(s.alone b.cursor).cursor, b.operations ++ (s.alone b.cursor).operations⟩ := by
  rw [Builder.attempt, step_eq, Step.alone, Builder.attempt]
  cases (⟨b.cursor, []⟩ : Builder).step s with
  | ok next => rfl
  | error r => simp only [Except.map, List.append_nil]

theorem attempt_of_refusal {b : Builder} {s : Step} (h : s.refusal?.isSome) : b.attempt s = b := by
  obtain ⟨r, hr⟩ := Option.isSome_iff_exists.mp h
  simp only [Builder.attempt, (step_eq_error_iff b s r).mpr hr]

/-- All that a step can do at cursor `c`, with what it says that it writes and creates. -/
inductive Adds (c : Int) (s : Step) : Builder → Prop where
  | nothing (contents : s.contents = []) (table : s.table? = none) : Adds c s ⟨c, []⟩
  | text (text : String) (contents : s.contents = textContents text) (table : s.table? = none) :
    Adds c s ⟨c + Text.width text, [.insertText c text]⟩
  | pageBreak (contents : s.contents = [.pageBreak, .pageBreak]) (table : s.table? = none) :
    Adds c s ⟨c + 2, [.insertPageBreak c]⟩
  | table (rows columns : Int) (contents : s.contents = []) (table : s.table? = some (rows, columns)) :
    Adds c s ⟨c, [.insertTable c rows columns]⟩
  | range (span : Span) (format : Format) (contents : s.contents = []) (table : s.table? = none) :
    Adds c s ⟨c, [format.over span]⟩
  | removal (op : Operation) (taken : ¬s.Keeps) (none : op.index? = none ∧ advance [op] = 0)
      (contents : s.contents = []) : Adds c s ⟨c, [op]⟩

theorem alone_over {start stop : Int} (s : Step) (op : Span → Operation)
    (h : ∀ b : Builder, b.step s = (Span.of start stop).map fun span => b.push (op span)) (c : Int) :
    s.alone c = ⟨c, []⟩ ∨ ∃ span, s.alone c = ⟨c, [op span]⟩ := by
  rw [Step.alone, Builder.attempt, h]
  cases Span.of start stop with
  | ok span => exact .inr ⟨span, rfl⟩
  | error r => exact .inl rfl

theorem adds_over {start stop : Int} {s : Step} (format : Format)
    (h : ∀ b : Builder, b.step s = (Span.of start stop).map fun span => b.push (format.over span))
    (contents : s.contents = []) (table : s.table? = none) (c : Int) : Adds c s (s.alone c) := by
  rcases alone_over s _ h c with none | ⟨span, one⟩
  · rw [none]
    exact .nothing contents table
  · rw [one]
    exact .range span format contents table

theorem adds_alone (c : Int) (s : Step) : Adds c s (s.alone c) := by
  cases s with
  | nameParagraphs start stop style => exact adds_over (.named style) (fun _ => rfl) rfl rfl c
  | styleText start stop style fields => exact adds_over (.characters style _) (fun _ => rfl) rfl rfl c
  | createList start stop preset => exact adds_over (.list preset) (fun _ => rfl) rfl rfl c
  | formatParagraphs start stop style fields =>
    exact adds_over (.lines style fields) (fun _ => rfl) rfl rfl c
  | deleteRange start stop =>
    rcases alone_over (.deleteRange start stop) .delete (fun _ => rfl) c with none | ⟨span, one⟩
    · rw [none]
      exact .nothing rfl rfl
    · rw [one]
      exact .removal _ id ⟨rfl, rfl⟩ rfl
  | insertText text =>
    by_cases empty : text = ""
    · subst empty
      exact .nothing rfl rfl
    · have one : (Step.insertText text).alone c = ⟨c + Text.width text, [.insertText c text]⟩ := by
        simp [Step.alone, Builder.attempt, Builder.step, Builder.insertText, empty]
      rw [one]
      exact .text text rfl rfl
  | insertRule => exact .text Builder.ruleText rfl rfl
  | insertPageBreak => exact .pageBreak rfl rfl
  | insertTable rows columns =>
    by_cases small : rows < 1 ∨ columns < 1
    · have none : (Step.insertTable rows columns).alone c = ⟨c, []⟩ :=
        attempt_of_refusal (by simp only [Step.refusal?, small, ↓reduceIte, Option.isSome_some])
      rw [none]
      exact .nothing rfl (if_pos small)
    · have one : (Step.insertTable rows columns).alone c = ⟨c, [.insertTable c rows columns]⟩ := by
        simp only [Step.alone, Builder.attempt, Builder.step, Builder.insertTable, small, ↓reduceIte]
        rfl
      rw [one]
      exact .table rows columns rfl (if_neg small)
  | replaceAll find replacement matchCase =>
    by_cases empty : find = ""
    · have none : (Step.replaceAll find replacement matchCase).alone c = ⟨c, []⟩ :=
        attempt_of_refusal (by simp only [Step.refusal?, empty, ↓reduceIte, Option.isSome_some])
      rw [none]
      exact .nothing rfl rfl
    · have one : (Step.replaceAll find replacement matchCase).alone c =
          ⟨c, [.replaceAll find replacement matchCase]⟩ := by
        simp only [Step.alone, Builder.attempt, Builder.step, Builder.replaceAll, empty, ↓reduceIte]
        rfl
      rw [one]
      exact .removal _ id ⟨rfl, rfl⟩ rfl

section

variable {c : Int} {s : Step} {b : Builder}

theorem Adds.cursor (h : Adds c s b) : b.cursor = c + s.contents.length := by
  cases h with
  | nothing contents | table _ _ contents | range _ _ contents | removal _ _ _ contents =>
    simp [contents]
  | text text contents => simp [contents, textContents, Text.length_units]
  | pageBreak contents => simp [contents]

theorem Adds.advance (h : Adds c s b) : advance b.operations = s.contents.length := by
  cases h with
  | nothing contents | table _ _ contents => rw [contents]; rfl
  | text text contents =>
    simp [contents, textContents, Text.length_units, Edit.advance, Operation.advance]
  | pageBreak contents => rw [contents]; rfl
  | range _ format contents => rw [contents]; cases format <;> rfl
  | removal op _ none contents => rw [contents]; exact none.2

theorem Adds.index (h : Adds c s b) : ∀ op ∈ b.operations, ∀ i, op.index? = some i → i = c := by
  intro op hop i hi
  cases h with
  | nothing => cases hop
  | text | pageBreak | table =>
    rw [List.mem_singleton.mp hop] at hi
    exact (Option.some.inj hi).symm
  | range span format =>
    rw [List.mem_singleton.mp hop] at hi
    cases format <;> cases hi
  | removal op' _ none =>
    rw [List.mem_singleton.mp hop, none.1] at hi
    cases hi

end

/-! ## Runs -/

theorem run_concat (b : Builder) (steps : List Step) (s : Step) :
    b.run (steps ++ [s]) = (b.run steps).attempt s := by
  simp only [Builder.run, List.foldl_append, List.foldl_cons, List.foldl_nil]

theorem advance_append (xs ys : List Operation) : advance (xs ++ ys) = advance xs + advance ys := by
  induction xs with
  | nil => exact (Nat.zero_add _).symm
  | cons op ops ih => simp only [List.cons_append, advance, ih, Nat.add_assoc]

theorem cursor_attempt {start : Int} {b : Builder} (h : b.cursor = start + advance b.operations)
    (s : Step) : (b.attempt s).cursor = start + advance (b.attempt s).operations := by
  have adds := adds_alone b.cursor s
  rw [attempt_eq, advance_append, adds.cursor, adds.advance, h]
  omega

theorem cursor_run {start : Int} {b : Builder} (h : b.cursor = start + advance b.operations)
    (steps : List Step) : (b.run steps).cursor = start + advance (b.run steps).operations := by
  induction steps generalizing b with
  | nil => exact h
  | cons s steps ih => exact ih (cursor_attempt h s)

/-- What a step may make of a builder: nothing if it is refused, and else it appends edits, those
that insert something at the cursor. -/
structure Advances (b : Builder) (s : Step) (next : Builder) : Prop where
  refused : ∀ r, b.step s = .error r ↔ s.refusal? = some r
  unchanged : s.refusal?.isSome → next = b
  appended : ∃ new, next.operations = b.operations ++ new ∧
    ∀ op ∈ new, ∀ i, op.index? = some i → i = b.cursor

theorem advances_attempt (b : Builder) (s : Step) : Advances b s (b.attempt s) where
  refused := step_eq_error_iff b s
  unchanged := attempt_of_refusal
  appended := ⟨_, by rw [attempt_eq], (adds_alone b.cursor s).index⟩

/-! ## Runs on a document -/

/-- Edit `n` of a batch, for a service to which it does not matter where the range of a format lies. -/
def rewrite (lay : Nat → Layout) (n : Nat) (b : Body) (op : Operation) : Option Body :=
  if (rangeOf op).isSome then some b else carryOut lay n b op

def rewriteFrom (lay : Nat → Layout) (n : Nat) (b : Body) : List Operation → Option Body
  | [] => some b
  | op :: ops => (rewrite lay n b op).bind fun next => rewriteFrom lay (n + 1) next ops

/-- The block of a table that has been created. -/
def tableBlock (lay : Nat → Layout) (e : TableEdit) : List Content :=
  .table e.rows e.columns (lay e.number) :: List.replicate (lay e.number).inner .inTable

theorem rewrite_of_carryOut {lay : Nat → Layout} {n : Nat} {b c : Body} {op : Operation}
    (h : carryOut lay n b op = some c) : rewrite lay n b op = some c := by
  unfold rewrite
  split
  · rename_i ranged
    cases op with
    | nameParagraphs | styleText | createList | formatParagraphs =>
      simp only [carryOut, Option.ite_none_right_eq_some] at h
      exact h.2
    | insertText | insertTable | insertPageBreak | delete | replaceAll => cases ranged
  · exact h

/-- Where the ranges matter as well, a batch that can be carried out leads to the same document. -/
theorem rewriteFrom_of_replayFrom {lay : Nat → Layout} {n : Nat} {b c : Body} {ops : List Operation}
    (h : replayFrom lay n b ops = some c) : rewriteFrom lay n b ops = some c := by
  induction ops generalizing n b with
  | nil => exact h
  | cons op ops ih =>
    obtain ⟨next, first, rest⟩ := Option.bind_eq_some_iff.mp h
    rw [rewriteFrom, rewrite_of_carryOut first]
    exact ih rest

theorem rewriteFrom_append (lay : Nat → Layout) (n : Nat) (b : Body) (xs ys : List Operation) :
    rewriteFrom lay n b (xs ++ ys) =
      (rewriteFrom lay n b xs).bind fun c => rewriteFrom lay (n + xs.length) c ys := by
  induction xs generalizing n b with
  | nil => rfl
  | cons op ops ih =>
    simp only [List.cons_append, rewriteFrom, List.length_cons, Option.bind_assoc]
    congr 1
    funext next
    rw [ih, show n + 1 + ops.length = n + (ops.length + 1) by omega]

/-- One step that takes nothing out, on a document whose front part ends at the cursor. -/
theorem Adds.rewriteFrom {c : Int} {s : Step} {next : Builder} (h : Adds c s next) (keeps : s.Keeps)
    (lay : Nat → Layout) (n : Nat) (done rest : Body) (start : c = done.length + 1) :
    ∃ new stack, Edit.rewriteFrom lay n (done ++ rest) next.operations =
        some (done ++ new ++ (stack ++ rest)) ∧
      contents new = s.contents ∧
      contents stack = (tableEdits n next.operations).reverse.flatMap (tableBlock lay) ∧
      (tableEdits n next.operations).map (fun e => (e.rows, e.columns)) = s.table?.toList := by
  have spliced (new : Body) : splice (done ++ rest) c new = some (done ++ new ++ rest) :=
    splice_between done new rest c start
  cases h with
  | nothing contents table =>
    exact ⟨[], [], by simp [Edit.rewriteFrom], contents.symm, rfl, by rw [table]; rfl⟩
  | text text contents table =>
    refine ⟨textMarks n text, [], ?_, by rw [contents, contents_textMarks], rfl, by rw [table]; rfl⟩
    simp only [Edit.rewriteFrom, rewrite, rangeOf, Option.isSome_none, Bool.false_eq_true, ↓reduceIte,
      carryOut, spliced, Option.bind_some, List.nil_append]
  | pageBreak contents table =>
    refine ⟨breakMarks n, [], ?_, contents.symm, rfl, by rw [table]; rfl⟩
    simp only [Edit.rewriteFrom, rewrite, rangeOf, Option.isSome_none, Bool.false_eq_true, ↓reduceIte,
      carryOut, spliced, Option.bind_some, List.nil_append]
  | table rows columns contents table =>
    refine ⟨[], tableMarks n rows columns (lay n), ?_, contents.symm, ?_, by rw [table]; rfl⟩
    · simp only [Edit.rewriteFrom, rewrite, rangeOf, Option.isSome_none, Bool.false_eq_true,
        ↓reduceIte, carryOut, spliced, Option.bind_some, List.append_nil, List.append_assoc]
    · simp [tableEdits, tableMarks, tableBlock, Replay.contents]
  | range span format contents table =>
    have ranged : rewrite lay n (done ++ rest) (format.over span) = some (done ++ rest) := by
      simp only [rewrite, rangeOf_over, Option.isSome_some, ↓reduceIte]
    have none : tableEdits n [format.over span] = [] := by
      cases format <;> rfl
    refine ⟨[], [], ?_, contents.symm, by rw [none]; rfl, by rw [none, table]; rfl⟩
    simp only [Edit.rewriteFrom, ranged, Option.bind_some, List.append_nil, List.nil_append]
  | removal op taken => exact absurd keeps taken

/-- What a run has made of a document that it began at position `start` of: `done` ends at the
cursor, and the new tables stand behind it. -/
structure Filled (lay : Nat → Layout) (old : List Content) (start : Int) (steps : List Step)
    (b : Builder) (done rest : Body) : Prop where
  rewritten : rewriteFrom lay 0 (before old) b.operations = some (done ++ rest)
  cursor : b.cursor = done.length + 1
  written : contents done = front old start ++ steps.flatMap Step.contents
  behind : contents rest = (tableEdits 0 b.operations).reverse.flatMap (tableBlock lay) ++ back old start
  tables : (tableEdits 0 b.operations).map (fun e => (e.rows, e.columns)) = steps.filterMap Step.table?

section

variable {lay : Nat → Layout} {old : List Content} {start : Int} {steps : List Step} {b : Builder}
  {done rest : Body}

theorem filled_nil (first : 1 ≤ start) (last : start ≤ old.length + 1) :
    Filled lay old start [] ⟨start, []⟩ (before (front old start)) (before (back old start)) where
  rewritten := congrArg some (before_eq start old)
  cursor := length_front first last
  written := by simp
  behind := by simp [tableEdits]
  tables := rfl

theorem Filled.attempt (h : Filled lay old start steps b done rest) {s : Step} (keeps : s.Keeps) :
    ∃ done' rest', Filled lay old start (steps ++ [s]) (b.attempt s) done' rest' := by
  have adds := adds_alone b.cursor s
  obtain ⟨new, stack, step, written, behind, tables⟩ :=
    adds.rewriteFrom keeps lay (0 + b.operations.length) done rest h.cursor
  refine ⟨done ++ new, stack ++ rest, ?_⟩
  rw [attempt_eq]
  exact {
    rewritten := by rw [rewriteFrom_append, h.rewritten, Option.bind_some, step]
    cursor := by
      have length : new.length = s.contents.length := by
        rw [← written, Replay.contents, List.length_map]
      have cursor := h.cursor
      simp only [adds.cursor, List.length_append, length]
      omega
    written := by
      rw [contents_append, h.written, written, List.flatMap_append, List.flatMap_singleton,
        List.append_assoc]
    behind := by
      rw [contents_append, h.behind, behind, tableEdits_append, List.reverse_append,
        List.flatMap_append, List.append_assoc]
    tables := by
      rw [tableEdits_append, List.map_append, h.tables, tables, List.filterMap_append]
      cases size : s.table? <;> simp [size] }

theorem filled_run (first : 1 ≤ start) (last : start ≤ old.length + 1)
    (keeps : ∀ s ∈ steps, s.Keeps) :
    ∃ done rest, Filled lay old start steps ((⟨start, []⟩ : Builder).run steps) done rest := by
  induction steps using List.reverseRecOn with
  | nil => exact ⟨_, _, filled_nil first last⟩
  | append_singleton steps s ih =>
    obtain ⟨done, rest, filled⟩ := ih fun t ht => keeps t (List.mem_append_left _ ht)
    rw [run_concat]
    exact filled.attempt (keeps s (List.mem_append_right _ (List.mem_singleton_self s)))

end

/-- A builder started at a position, after any steps, the refused ones among them. Each further step
is refused exactly for its reason, and then changes nothing, or it appends edits at the cursor. The
cursor is as far behind the start as the appended texts and page breaks are wide. Steps that take
nothing out of a document leave it as it was in front of the start and behind it, with the texts and
page breaks in between in the order of their steps, and then the tables, the last one first. -/
theorem run_fills_insertion_point (start : Int) (first : 1 ≤ start) (steps : List Step) :
    ∃ begun, Builder.start start = .ok begun ∧
      (∀ s, Advances (begun.run steps) s (begun.run (steps ++ [s]))) ∧
      (begun.run steps).cursor = start + advance (begun.run steps).operations ∧
      ((∀ s ∈ steps, s.Keeps) → ∀ (lay : Nat → Layout) (old : List Content),
        start ≤ old.length + 1 → ∃ final,
          rewriteFrom lay 0 (before old) (begun.run steps).operations = some final ∧
          (∀ other, replay lay (begun.run steps).operations old = some other → other = final) ∧
          contents final = front old start ++ steps.flatMap Step.contents ++
            ((tableEdits 0 (begun.run steps).operations).reverse.flatMap (tableBlock lay) ++
              back old start) ∧
          (tableEdits 0 (begun.run steps).operations).map (fun e => (e.rows, e.columns)) =
            steps.filterMap Step.table?) := by
  refine ⟨⟨start, []⟩, if_neg (by omega), fun s => ?_, ?_, fun keeps lay old last => ?_⟩
  · rw [run_concat]
    exact advances_attempt _ s
  · exact cursor_run (Int.add_zero start).symm steps
  · obtain ⟨done, rest, filled⟩ :
        ∃ done rest, Filled lay old start steps ((⟨start, []⟩ : Builder).run steps) done rest :=
      filled_run first last keeps
    refine ⟨_, filled.rewritten, fun other replayed => ?_, ?_, filled.tables⟩
    · have same := (rewriteFrom_of_replayFrom replayed).symm.trans filled.rewritten
      exact Option.some.inj same
    · rw [contents_append, filled.written, filled.behind]

/-- Texts, a break and tables, with an inverted range and a table without rows among them. -/
def mixedSteps : List Step :=
  [.insertText "a𝔸", .insertTable 1 2, .nameParagraphs 9 3 "TITLE", .insertPageBreak,
    .insertTable 0 1, .insertTable 2 2, .createList 1 900 "BULLET_CHECKBOX", .insertText "b"]

def countedLayout (n : Nat) : Layout :=
  ⟨n, []⟩

theorem mixedSteps_fill_insertion_point : ∃ begun, Builder.start 2 = .ok begun ∧
    (begun.run mixedSteps).cursor = 8 ∧ ∃ final,
      rewriteFrom countedLayout 0 (before [.unit 72, .unit 10]) (begun.run mixedSteps).operations =
        some final ∧
      contents final = [.unit 72] ++ (textContents "a𝔸" ++ [.pageBreak, .pageBreak] ++ textContents "b") ++
        [.table 2 2 (countedLayout 3), .inTable, .inTable, .inTable,
          .table 1 2 (countedLayout 1), .inTable, .unit 10] := by
  have keeps : ∀ s ∈ mixedSteps, s.Keeps := by simp [mixedSteps, Step.Keeps]
  obtain ⟨begun, started, _, cursor, filled⟩ := run_fills_insertion_point 2 (by decide) mixedSteps
  obtain ⟨final, rewritten, _, written, _⟩ := filled keeps countedLayout [.unit 72, .unit 10] (by decide)
  cases started
  exact ⟨_, rfl, cursor.trans rfl, final, rewritten, written.trans rfl⟩

end Docwright.Edit
