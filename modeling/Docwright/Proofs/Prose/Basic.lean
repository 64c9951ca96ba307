import Docwright.Edit.Operation
import Docwright.Snapshot.Section
import Docwright.Text.Units

/-!
Documents as paragraphs with named styles. A paragraph has its style at its line end, so that a
document is a flat sequence of characters and line ends, the first one at position one. Line ends
that are inserted take the style of the paragraph that stands at the insertion, and a style that is
given by name goes to every paragraph that its range touches.
-/

namespace Docwright.Prose

open Edit

inductive Glyph where
  | char (c : Char)
  | lineEnd (style : String)
deriving DecidableEq

def Glyph.width : Glyph → Nat
  | .char c => Text.charWidth c
  | .lineEnd _ => 1

abbrev Draft := List Glyph

def width : Draft → Nat
  | [] => 0
  | g :: gs => g.width + width gs

structure Paragraph where
  style : String
  line : List Char
deriving DecidableEq

namespace Paragraph

def glyphs (p : Paragraph) : Draft :=
  p.line.map .char ++ [.lineEnd p.style]

def width (p : Paragraph) : Nat :=
  Text.charsWidth p.line + 1

/-- The text of a paragraph, as a service reports it. -/
def text (p : Paragraph) : String :=
  String.ofList (p.line ++ ['\n'])

def level? (p : Paragraph) : Option Nat :=
  Snapshot.headingLevel? p.style

def heading (p : Paragraph) : String :=
  Text.strip p.text

/-- The text and level of a heading. -/
def entry? (p : Paragraph) : Option (String × Nat) :=
  p.level?.map fun level => (p.heading, level)

end Paragraph

def glyphs (ps : List Paragraph) : Draft :=
  ps.flatMap Paragraph.glyphs

/-- The paragraphs of a document; what has no line end belongs to none. -/
def paragraphs : Draft → List Paragraph
  | [] => []
  | .lineEnd style :: gs => ⟨style, []⟩ :: paragraphs gs
  | .char c :: gs => match paragraphs gs with
    | [] => []
    | p :: ps => { p with line := c :: p.line } :: ps

def outline (ps : List Paragraph) : List (String × Nat) :=
  ps.filterMap Paragraph.entry?

/-! ## Edits -/

/-- What stands in front of a number of units, and what stands behind them. No character is cut. -/
def cut : Draft → Nat → Option (Draft × Draft)
  | d, 0 => some ([], d)
  | [], _ + 1 => none
  | g :: gs, n + 1 =>
    if g.width ≤ n + 1 then (cut gs (n + 1 - g.width)).map fun (a, b) => (g :: a, b) else none

/-- A document, cut at a position. -/
def cutAt (d : Draft) (index : Int) : Option (Draft × Draft) :=
  if 1 ≤ index then cut d (index - 1).toNat else none

/-- A document, cut at both ends of a range. -/
def cutOut (d : Draft) (s : Span) : Option (Draft × Draft × Draft) :=
  (cutAt d s.start).bind fun (front, rest) =>
    (cut rest (s.stop - s.start).toNat).map fun (mid, back) => (front, mid, back)

/-- The style of the paragraph that a document starts with. -/
def firstStyle : Draft → String
  | [] => ""
  | .lineEnd style :: _ => style
  | .char _ :: gs => firstStyle gs

/-- A text that is inserted into a paragraph with a style. -/
def typed (style : String) (cs : List Char) : Draft :=
  cs.map fun c => if c = '\n' then .lineEnd style else .char c

def restyle (style : String) : Draft → Draft
  | [] => []
  | .lineEnd _ :: gs => .lineEnd style :: restyle style gs
  | .char c :: gs => .char c :: restyle style gs

/-- Gives a style to the paragraph that a document starts with. -/
def restyleFirst (style : String) : Draft → Draft
  | [] => []
  | .lineEnd _ :: gs => .lineEnd style :: gs
  | .char c :: gs => .char c :: restyleFirst style gs

/-- Whether a part of a document stops inside of a paragraph. -/
def isOpen (d : Draft) : Bool :=
  match d.getLast? with
  | some (.char _) => true
  | _ => false

/-- One edit. The last line end stays where it is, and nothing can be inserted behind it. Formats
other than named styles leave all paragraphs as they are; what else there is has no result here. -/
def carryOut (d : Draft) : Operation → Option Draft
  | .insertText index text => (cutAt d index).bind fun (front, back) =>
    if back = [] then none else some (front ++ typed (firstStyle back) text.toList ++ back)
  | .delete s => (cutOut d s).bind fun (front, _, back) =>
    if back = [] then none else some (front ++ back)
  | .nameParagraphs s style => (cutOut d s).map fun (front, mid, back) =>
    front ++ restyle style mid ++ if isOpen mid then restyleFirst style back else back
  | .styleText s _ _ | .createList s _ | .formatParagraphs s _ _ => (cutOut d s).map fun _ => d
  | .insertTable .. | .insertPageBreak _ | .replaceAll .. => none

def replay : List Operation → Draft → Option Draft
  | [], d => some d
  | op :: ops, d => (carryOut d op).bind (replay ops)

/-! ## Positions -/

theorem Glyph.width_pos (g : Glyph) : 0 < g.width := by
  cases g with
  | char c => exact Text.charWidth_pos c
  | lineEnd => exact Nat.one_pos

@[simp] theorem width_append (a b : Draft) : width (a ++ b) = width a + width b := by
  induction a with
  | nil => simp [width]
  | cons g gs ih => simp only [List.cons_append, width, ih, Nat.add_assoc]

theorem eq_nil_of_width_eq_zero {d : Draft} (h : width d = 0) : d = [] := by
  cases d with
  | nil => rfl
  | cons g gs =>
    have := g.width_pos
    simp only [width] at h
    omega

theorem width_map_char (cs : List Char) : width (cs.map .char) = Text.charsWidth cs := by
  induction cs with
  | nil => rfl
  | cons c cs ih => simp only [List.map_cons, width, ih, Glyph.width, Text.charsWidth]

theorem width_paragraph (p : Paragraph) : width p.glyphs = p.width := by
  simp only [Paragraph.glyphs, width_append, width_map_char, width, Glyph.width, Paragraph.width]

theorem glyphs_append (ps qs : List Paragraph) : glyphs (ps ++ qs) = glyphs ps ++ glyphs qs :=
  List.flatMap_append

theorem glyphs_cons (p : Paragraph) (ps : List Paragraph) : glyphs (p :: ps) = p.glyphs ++ glyphs ps :=
  rfl

theorem glyphs_singleton (p : Paragraph) : glyphs [p] = p.glyphs :=
  List.flatMap_singleton ..

theorem width_glyphs_concat (ps : List Paragraph) (p : Paragraph) :
    width (glyphs (ps ++ [p])) = width (glyphs ps) + p.width := by
  rw [glyphs_append, width_append, glyphs_singleton, width_paragraph]

theorem width_typed (style : String) (cs : List Char) : width (typed style cs) = Text.charsWidth cs := by
  induction cs with
  | nil => rfl
  | cons c cs ih =>
    by_cases newline : c = '\n'
    · subst newline
      simp only [typed, List.map_cons, ↓reduceIte, width, Glyph.width, Text.charsWidth] at ih ⊢
      rw [ih]
      rfl
    · simp only [typed, List.map_cons, newline, ↓reduceIte, width, Glyph.width, Text.charsWidth] at ih ⊢
      rw [ih]

theorem cut_append (a b : Draft) : cut (a ++ b) (width a) = some (a, b) := by
  induction a with
  | nil => cases b <;> rfl
  | cons g gs ih =>
    obtain ⟨n, hn⟩ := Nat.exists_eq_succ_of_ne_zero (Nat.ne_of_gt g.width_pos)
    have total : width (g :: gs) = n + width gs + 1 := by
      simp only [width, hn]
      omega
    have fits : g.width ≤ n + width gs + 1 := by omega
    have rest : n + width gs + 1 - g.width = width gs := by omega
    rw [total, List.cons_append]
    simp only [cut, fits, ↓reduceIte, rest, ih, Option.map_some]

theorem cutAt_append (a b : Draft) {index : Int} (h : index = width a + 1) :
    cutAt (a ++ b) index = some (a, b) := by
  have positive : 1 ≤ index := by omega
  have offset : (index - 1).toNat = width a := by omega
  simp only [cutAt, positive, ↓reduceIte, offset, cut_append]

theorem cutOut_append (a mid b : Draft) {s : Span} (start : s.start = width a + 1)
    (stop : s.stop = s.start + width mid) : cutOut (a ++ mid ++ b) s = some (a, mid, b) := by
  have size : (s.stop - s.start).toNat = width mid := by omega
  rw [cutOut, List.append_assoc, cutAt_append a (mid ++ b) start]
  simp only [Option.bind_some, size, cut_append, Option.map_some]

theorem carryOut_insertText (front : Draft) {back : Draft} (nonempty : back ≠ []) {index : Int}
    (start : index = width front + 1) (text : String) :
    carryOut (front ++ back) (.insertText index text) =
      some (front ++ typed (firstStyle back) text.toList ++ back) := by
  simp only [carryOut, cutAt_append front back start, Option.bind_some, nonempty, ↓reduceIte]

/-! ## Paragraphs -/

theorem paragraphs_paragraph_append (p : Paragraph) (d : Draft) :
    paragraphs (p.glyphs ++ d) = p :: paragraphs d := by
  obtain ⟨style, line⟩ := p
  simp only [Paragraph.glyphs, List.append_assoc]
  induction line with
  | nil => rfl
  | cons c cs ih => rw [List.map_cons, List.cons_append, paragraphs, ih]

theorem paragraphs_glyphs_append (ps : List Paragraph) (d : Draft) :
    paragraphs (glyphs ps ++ d) = ps ++ paragraphs d := by
  induction ps with
  | nil => rfl
  | cons p ps ih =>
    rw [glyphs_cons, List.append_assoc, paragraphs_paragraph_append, ih, List.cons_append]

theorem paragraphs_glyphs (ps : List Paragraph) : paragraphs (glyphs ps) = ps := by
  have all := paragraphs_glyphs_append ps []
  rwa [List.append_nil, paragraphs, List.append_nil] at all

theorem glyphs_paragraphs_concat (d : Draft) (style : String) :
    glyphs (paragraphs (d ++ [.lineEnd style])) = d ++ [.lineEnd style] := by
  induction d with
  | nil => rfl
  | cons g gs ih =>
    cases g with
    | lineEnd own =>
      rw [List.cons_append, paragraphs, glyphs_cons, ih]
      rfl
    | char c =>
      rw [List.cons_append, paragraphs]
      cases h : paragraphs (gs ++ [.lineEnd style]) with
      | nil => simp [h, glyphs] at ih
      | cons p ps =>
        rw [h, glyphs_cons] at ih
        rw [glyphs_cons, ← ih]
        rfl

theorem paragraphs_concat_ne (d : Draft) (style : String) : paragraphs (d ++ [.lineEnd style]) ≠ [] := by
  intro none
  have all := glyphs_paragraphs_concat d style
  rw [none] at all
  simp [glyphs] at all

/-- What follows a line end does not change the paragraphs before it. -/
theorem paragraphs_concat_append (d : Draft) (style : String) (rest : Draft) :
    paragraphs (d ++ [.lineEnd style] ++ rest) = paragraphs (d ++ [.lineEnd style]) ++ paragraphs rest := by
  rw [← glyphs_paragraphs_concat d style, paragraphs_glyphs_append, paragraphs_glyphs]

theorem style_of_mem_paragraphs {d : Draft} {p : Paragraph} (h : p ∈ paragraphs d) :
    .lineEnd p.style ∈ d := by
  induction d generalizing p with
  | nil => cases h
  | cons g gs ih =>
    cases g with
    | lineEnd style =>
      rcases List.mem_cons.mp h with rfl | h
      · exact List.mem_cons_self
      · exact List.mem_cons_of_mem _ (ih h)
    | char c =>
      rw [paragraphs] at h
      cases hs : paragraphs gs with
      | nil =>
        rw [hs] at h
        cases h
      | cons q qs =>
        rw [hs] at h ih
        rcases List.mem_cons.mp h with rfl | h
        · exact List.mem_cons_of_mem _ (ih (p := q) List.mem_cons_self)
        · exact List.mem_cons_of_mem _ (ih (List.mem_cons_of_mem _ h))

theorem style_of_mem_typed {style own : String} {cs : List Char} (h : .lineEnd own ∈ typed style cs) :
    own = style := by
  obtain ⟨c, _, hc⟩ := List.mem_map.mp h
  split at hc
  · exact (Glyph.lineEnd.inj hc).symm
  · cases hc

theorem firstStyle_paragraph (p : Paragraph) (d : Draft) : firstStyle (p.glyphs ++ d) = p.style := by
  obtain ⟨style, line⟩ := p
  simp only [Paragraph.glyphs, List.append_assoc]
  induction line with
  | nil => rfl
  | cons c cs ih => exact ih

theorem restyle_typed (style own : String) (cs : List Char) :
    restyle style (typed own cs) = typed style cs := by
  induction cs with
  | nil => rfl
  | cons c cs ih =>
    by_cases newline : c = '\n'
    · simp only [typed, List.map_cons, newline, ↓reduceIte, restyle] at ih ⊢
      rw [ih]
    · simp only [typed, List.map_cons, newline, ↓reduceIte, restyle] at ih ⊢
      rw [ih]

theorem typed_append (style : String) (cs ds : List Char) :
    typed style (cs ++ ds) = typed style cs ++ typed style ds :=
  List.map_append

theorem typed_concat (style : String) (cs : List Char) :
    typed style (cs ++ ['\n']) = typed style cs ++ [.lineEnd style] :=
  typed_append style cs ['\n']

theorem outline_append (ps qs : List Paragraph) : outline (ps ++ qs) = outline ps ++ outline qs :=
  List.filterMap_append

end Docwright.Prose
