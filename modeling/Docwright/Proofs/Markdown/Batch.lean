import Docwright.Markdown.Compile
import Docwright.Proofs.Markdown.Spans
import Docwright.Proofs.Replay.Writing

/-!
The edits of a Markdown document. `passages` says, with no positions in a document, what each block
writes and what is formatted in it; compiling a document gives exactly the batch of its passages
(`writeBlocks_eq_extend`).
-/

namespace Docwright.Markdown

open Edit Replay

/-- The span of a text that was written for inline content, to be styled. -/
def StyledSpan.ranged (s : StyledSpan) : Ranged :=
  ⟨s.start, s.stop - s.start, .characters s.style s.style.mask⟩

/-- The lines of a list, one for each item. -/
def listText (font : String) (items : List Item) : String :=
  String.join (items.map (Item.line font (items.all Item.isTask)))

def headingPassage (font : String) (level : Nat) (content : List Inline) : Passage :=
  let styled := InlineRules.styled { codeFont := font } content
  let line := styled.text ++ "\n"
  .text line (.whole line (.named (headingStyle level)) :: styled.spans.map StyledSpan.ranged)

def paragraphPassages (font : String) (content : List Inline) : List Passage :=
  let styled := InlineRules.styled { codeFont := font } content
  if styled.text = "" then [] else [.text (styled.text ++ "\n") (styled.spans.map StyledSpan.ranged)]

def codePassages (font content : String) : List Passage :=
  if content = "" then []
  else
    let style := Style.TextStyle.ofFont font
    [.text content [.whole content (.characters style style.mask)], .text "\n" []]

def listPassages (font : String) (ordered : Bool) (items : List Item) : List Passage :=
  if items.isEmpty then []
  else
    let text := listText font items
    [.text text [.whole text (.list (listPreset ordered (items.all Item.isTask)))]]

mutual

/-- What a block writes, with the ranges in each text: all of a heading for its style and all of
a list or a block of code for theirs, and every styled span of a heading or a paragraph. -/
def passages (font : String) : Block (List Inline) → List Passage
  | .heading level content => [headingPassage font level content]
  | .paragraph content => paragraphPassages font content
  | .list ordered items => listPassages font ordered items
  | .code content => codePassages font content
  | .rule => [.text Builder.ruleText []]
  | .quote children => allPassages font children
  | .html _ => []

def allPassages (font : String) : List (Block (List Inline)) → List Passage
  | [] => []
  | block :: rest => passages font block ++ allPassages font rest

end

/-- Something that holds of the passages of each kind of block. -/
structure OfBlocks (font : String) (P : Passage → Prop) : Prop where
  heading : ∀ level content, P (headingPassage font level content)
  paragraph : ∀ content, ∀ p ∈ paragraphPassages font content, P p
  list : ∀ ordered items, ∀ p ∈ listPassages font ordered items, P p
  code : ∀ content, ∀ p ∈ codePassages font content, P p
  rule : P (.text Builder.ruleText [])

mutual

theorem OfBlocks.passages {font : String} {P : Passage → Prop} (h : OfBlocks font P)
    (block : Block (List Inline)) : ∀ p ∈ passages font block, P p := by
  cases block with
  | heading level content => exact List.forall_mem_singleton.mpr (h.heading level content)
  | paragraph content => exact h.paragraph content
  | list ordered items => exact h.list ordered items
  | code content => exact h.code content
  | rule => exact List.forall_mem_singleton.mpr h.rule
  | quote children => exact h.allPassages children
  | html => exact List.forall_mem_nil _

theorem OfBlocks.allPassages {font : String} {P : Passage → Prop} (h : OfBlocks font P)
    (blocks : List (Block (List Inline))) : ∀ p ∈ allPassages font blocks, P p := by
  cases blocks with
  | nil => exact List.forall_mem_nil _
  | cons block rest =>
    exact List.forall_mem_append.mpr ⟨h.passages block, h.allPassages rest⟩

end

theorem line_ne (text : String) : text ++ "\n" ≠ "" :=
  Text.append_ne (by decide)

theorem listText_ne {font : String} {items : List Item} (h : items ≠ []) :
    listText font items ≠ "" :=
  Text.join_ne h fun _ _ => line_ne _

theorem apply_spans (b : Builder) (text : String) (ranges : List Ranged) (spans : List StyledSpan)
    (ordered : ∀ p ∈ spans, p.start < p.stop) :
    spans.foldlM (fun b' p => b'.styleText (b.cursor + p.start) (b.cursor + p.stop) p.style)
        (extend b [.text text ranges]) =
      (.ok (extend b [.text text (ranges ++ spans.map StyledSpan.ranged)]) : Building) := by
  induction spans generalizing ranges with
  | nil => simp [pure, Except.pure]
  | cons p ps ih =>
    have order := ordered p List.mem_cons_self
    have first := styleText_extend b text ranges p.start (p.stop - p.start) p.style rfl
      (show b.cursor + (p.stop : Int) = _ by omega)
    rw [List.foldlM_cons, first]
    refine (ih _ fun q hq => ordered q (List.mem_cons_of_mem _ hq)).trans ?_
    rw [List.append_assoc]
    rfl

theorem apply_extend (b : Builder) (text : String) (ranges : List Ranged) (rules : InlineRules)
    (content : List Inline) :
    (rules.styled content).apply b.cursor (extend b [.text text ranges]) =
      .ok (extend b [.text text (ranges ++ (rules.styled content).spans.map StyledSpan.ranged)]) :=
  apply_spans b text ranges _ fun p hp => (within_styled rules content p hp).2.1

theorem writeHeading_eq_extend (font : String) (b : Builder) (level : Nat) (content : List Inline) :
    writeHeading font b level content = .ok (extend b [headingPassage font level content]) := by
  let line := (InlineRules.styled { codeFont := font } content).text ++ "\n"
  have named := nameParagraphs_extend b line [] (headingStyle level)
  rw [← insertText_eq_extend] at named
  have styled := apply_extend b line [.whole line (.named (headingStyle level))]
    { codeFont := font } content
  exact (bind_of_ok named _).trans styled

theorem writeParagraph_eq_extend (font : String) (b : Builder) (content : List Inline) :
    writeParagraph font b content = .ok (extend b (paragraphPassages font content)) := by
  by_cases empty : (InlineRules.styled { codeFont := font } content).text = ""
  · simp only [writeParagraph, paragraphPassages, empty, ↓reduceIte, extend_nil]
  · simp only [writeParagraph, paragraphPassages, empty, ↓reduceIte, insertText_eq_extend]
    exact apply_extend b _ [] _ content

theorem writeCode_eq_extend (font : String) (b : Builder) (content : String) :
    writeCode font b content = .ok (extend b (codePassages font content)) := by
  by_cases empty : content = ""
  · simp only [writeCode, codePassages, empty, ↓reduceIte, extend_nil]
  · have stop : (b.insertText content).cursor = b.cursor + (0 : Nat) + Text.width content := by
      rw [cursor_insertText, Int.natCast_zero, Int.add_zero]
    have styled := styleText_extend b content [] 0 (Text.width content) (.ofFont font)
      (Int.add_zero b.cursor).symm stop
    rw [← insertText_eq_extend] at styled
    simp only [writeCode, codePassages, empty, ↓reduceIte, styled]
    refine congrArg Except.ok ((insertText_eq_extend _ _).trans (extend_append _ _ _).symm)

theorem writeList_eq_extend (font : String) (b : Builder) (ordered : Bool) (items : List Item) :
    writeList font b ordered items = .ok (extend b (listPassages font ordered items)) := by
  by_cases empty : items.isEmpty
  · simp only [writeList, listPassages, empty, ↓reduceIte, extend_nil]
  · have listed := createList_extend b (listText font items) []
      (listPreset ordered (items.all Item.isTask))
    rw [← insertText_eq_extend] at listed
    simp only [writeList, listPassages, empty, Bool.false_eq_true, ↓reduceIte]
    exact listed

mutual

theorem writeBlock_eq_extend (font : String) (b : Builder) (block : Block (List Inline)) :
    writeBlock font b block = .ok (extend b (passages font block)) := by
  cases block with
  | heading level content => exact writeHeading_eq_extend font b level content
  | paragraph content => exact writeParagraph_eq_extend font b content
  | list ordered items => exact writeList_eq_extend font b ordered items
  | code content => exact writeCode_eq_extend font b content
  | rule => exact congrArg Except.ok (insertText_eq_extend b _)
  | quote children => exact writeBlocks_eq_extend font b children
  | html content => exact congrArg Except.ok (extend_nil b).symm

theorem writeBlocks_eq_extend (font : String) (b : Builder) (blocks : List (Block (List Inline))) :
    writeBlocks font b blocks = .ok (extend b (allPassages font blocks)) := by
  cases blocks with
  | nil => exact congrArg Except.ok (extend_nil b).symm
  | cons block rest =>
    rw [writeBlocks, writeBlock_eq_extend font b block, allPassages, extend_append]
    exact writeBlocks_eq_extend font _ rest

end

end Docwright.Markdown
