import Docwright.Proofs.Replay.Body

/-!
Carrying out a batch on a document, edit by edit. The service decides how each new table is laid
out. An edit that addresses a position outside of the document has no result.
-/

namespace Docwright.Replay

open Edit Style

/-- What a range is set to. -/
inductive Format where
  | named (style : String)
  | characters (style : TextStyle) (fields : String)
  | list (preset : String)
  | lines (style : List (String × Json)) (fields : String)

def Format.over (s : Span) : Format → Operation
  | .named style => .nameParagraphs s style
  | .characters style fields => .styleText s style fields
  | .list preset => .createList s preset
  | .lines style fields => .formatParagraphs s style fields

/-- The range that an edit sets, and to what; such edits leave the text alone. -/
def rangeOf : Operation → Option (Span × Format)
  | .nameParagraphs s style => some (s, .named style)
  | .styleText s style fields => some (s, .characters style fields)
  | .createList s preset => some (s, .list preset)
  | .formatParagraphs s style fields => some (s, .lines style fields)
  | _ => none

/-- Edit `n` of a batch. Replacing all occurrences of a text has no result here. -/
def carryOut (lay : Nat → Layout) (n : Nat) (b : Body) : Operation → Option Body
  | .insertText index text => splice b index (textMarks n text)
  | .insertPageBreak index => splice b index (breakMarks n)
  | .insertTable index rows columns => splice b index (tableMarks n rows columns (lay n))
  | .delete s => if Holds b s then some (cutOut b s) else none
  | .nameParagraphs s _ | .styleText s _ _ | .createList s _ | .formatParagraphs s _ _ =>
    if Holds b s then some b else none
  | .replaceAll .. => none

def replayFrom (lay : Nat → Layout) (n : Nat) (b : Body) : List Operation → Option Body
  | [] => some b
  | op :: ops => (carryOut lay n b op).bind fun next => replayFrom lay (n + 1) next ops

/-- The document after a batch. -/
def replay (lay : Nat → Layout) (ops : List Operation) (old : List Content) : Option Body :=
  replayFrom lay 0 (before old) ops

structure RangeEdit where
  number : Nat
  span : Span
  format : Format

def rangeEdits (n : Nat) : List Operation → List RangeEdit
  | [] => []
  | op :: ops => match rangeOf op with
    | some (s, f) => ⟨n, s, f⟩ :: rangeEdits (n + 1) ops
    | none => rangeEdits (n + 1) ops

structure TableEdit where
  number : Nat
  rows : Int
  columns : Int

def tableEdits (n : Nat) : List Operation → List TableEdit
  | [] => []
  | .insertTable _ rows columns :: ops => ⟨n, rows, columns⟩ :: tableEdits (n + 1) ops
  | _ :: ops => tableEdits (n + 1) ops

def insertedTexts (ops : List Operation) : List String :=
  ops.filterMap fun
    | .insertText _ text => some text
    | _ => none

@[simp] theorem rangeOf_over (s : Span) (f : Format) : rangeOf (f.over s) = some (s, f) := by
  cases f <;> rfl

theorem carryOut_over (lay : Nat → Layout) (n : Nat) {b : Body} {s : Span} (f : Format)
    (h : Holds b s) : carryOut lay n b (f.over s) = some b := by
  cases f <;> simp only [Format.over, carryOut, h, ↓reduceIte]

theorem replayFrom_append (lay : Nat → Layout) (n : Nat) (b : Body) (xs ys : List Operation) :
    replayFrom lay n b (xs ++ ys) =
      (replayFrom lay n b xs).bind fun c => replayFrom lay (n + xs.length) c ys := by
  induction xs generalizing n b with
  | nil => rfl
  | cons op ops ih =>
    simp only [List.cons_append, replayFrom, List.length_cons, Option.bind_assoc]
    congr 1
    funext next
    rw [ih, show n + 1 + ops.length = n + (ops.length + 1) by omega]

theorem replayFrom_append_of {lay : Nat → Layout} {n : Nat} {b c : Body} {xs : List Operation}
    (h : replayFrom lay n b xs = some c) (ys : List Operation) :
    replayFrom lay n b (xs ++ ys) = replayFrom lay (n + xs.length) c ys := by
  rw [replayFrom_append, h]; rfl

theorem rangeEdits_append (n : Nat) (xs ys : List Operation) :
    rangeEdits n (xs ++ ys) = rangeEdits n xs ++ rangeEdits (n + xs.length) ys := by
  induction xs generalizing n with
  | nil => rfl
  | cons op ops ih =>
    have shift : n + 1 + ops.length = n + (op :: ops).length := by
      simp only [List.length_cons]; omega
    simp only [List.cons_append, rangeEdits, ih, shift]
    split <;> rfl

theorem tableEdits_cons (n : Nat) (op : Operation) (ops : List Operation) :
    tableEdits n (op :: ops) = tableEdits n [op] ++ tableEdits (n + 1) ops := by
  cases op <;> rfl

theorem tableEdits_append (n : Nat) (xs ys : List Operation) :
    tableEdits n (xs ++ ys) = tableEdits n xs ++ tableEdits (n + xs.length) ys := by
  induction xs generalizing n with
  | nil => rfl
  | cons op ops ih =>
    rw [List.cons_append, tableEdits_cons, ih, tableEdits_cons n op ops, List.append_assoc,
      List.length_cons, show n + 1 + ops.length = n + (ops.length + 1) by omega]

theorem tableEdits_ranges (n : Nat) {ops : List Operation} (h : ∀ op ∈ ops, rangeOf op ≠ none) :
    tableEdits n ops = [] := by
  induction ops generalizing n with
  | nil => rfl
  | cons op ops ih =>
    have tail := ih (n + 1) fun o ho => h o (List.mem_cons_of_mem _ ho)
    have head := h op List.mem_cons_self
    rw [tableEdits_cons, tail]
    cases op <;> first | rfl | exact absurd rfl head

end Docwright.Replay
