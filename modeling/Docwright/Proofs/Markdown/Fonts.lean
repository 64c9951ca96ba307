import Docwright.Proofs.Markdown.Placement

namespace Docwright.Style.TextStyle

/-- The same style with another font, if it sets one. -/
def inFont (font : String) (s : TextStyle) : TextStyle :=
  { s with fontFamily := s.fontFamily.map fun _ => font }

def fontField (font : String) : String × Json :=
  ("weightedFontFamily", .obj [("fontFamily", .str font)])

/-- The fields in front of the font. -/
def fieldsBefore (s : TextStyle) : List (String × Json) :=
  List.filterMap id [
    s.bold.map fun b => ("bold", .bool b),
    s.italic.map fun b => ("italic", .bool b),
    s.underline.map fun b => ("underline", .bool b),
    s.strikethrough.map fun b => ("strikethrough", .bool b),
    s.fontSize.map fun n => ("fontSize", points n)]

/-- The fields behind the font. -/
def fieldsAfter (s : TextStyle) : List (String × Json) :=
  List.filterMap id [
    s.foreground.map fun c => ("foregroundColor", colorField c),
    s.background.map fun c => ("backgroundColor", colorField c),
    s.link.map fun url => ("link", .obj [("url", .str url)])]

theorem fields_inFont (font : String) (s : TextStyle) : (s.inFont font).fields =
    s.fieldsBefore ++ ((s.fontFamily.map fun _ => fontField font).toList ++ s.fieldsAfter) := by
  have split (o : Option (String × Json)) (front back : List (Option (String × Json))) :
      List.filterMap id (front ++ o :: back) =
        List.filterMap id front ++ (o.toList ++ List.filterMap id back) := by
    cases o <;> simp
  refine Eq.trans ?_ (split _ _ _)
  unfold fields inFont
  cases s.fontFamily <;> rfl

theorem inFont_of_none {s : TextStyle} (h : s.fontFamily = none) (font : String) :
    s.inFont font = s := by
  cases s
  subst h
  rfl

theorem inFont_of_some {s : TextStyle} {font : String} (h : s.fontFamily = some font) :
    s.inFont font = s := by
  cases s
  subst h
  rfl

theorem mask_inFont (font : String) (s : TextStyle) : (s.inFont font).mask = s.mask := by
  cases family : s.fontFamily with
  | none => rw [inFont_of_none family]
  | some name =>
    have same : (s.inFont font).mask = (s.inFont name).mask := by
      simp [mask, maskOf, fields_inFont, family, fontField]
    rw [same, inFont_of_some family]

end Docwright.Style.TextStyle

namespace Docwright.Edit

def Operation.inFont (font : String) : Operation → Operation
  | .styleText span style fields => .styleText span (style.inFont font) fields
  | op => op

/-- An edit that sets a font. -/
def Operation.SetsFont : Operation → Prop
  | .styleText _ style _ => style.fontFamily.isSome
  | _ => False

theorem Operation.request_inFont_iff (font other : String) (op : Operation) :
    (op.inFont font).request = (op.inFont other).request ↔ (op.SetsFont → font = other) := by
  cases op with
  | styleText span style fields =>
    cases family : style.fontFamily <;>
      simp [inFont, SetsFont, request, Style.TextStyle.toJson, Style.TextStyle.fields_inFont,
        Style.TextStyle.fontField, family]
  | _ => simp [inFont, SetsFont]

theorem requests_inFont_iff (font other : String) (ops : List Operation) :
    requests (ops.map (Operation.inFont font)) = requests (ops.map (Operation.inFont other)) ↔
      ((∃ op ∈ ops, op.SetsFont) → font = other) := by
  rw [requests, requests, List.map_map, List.map_map, List.map_inj_left]
  simp only [Function.comp_apply, Operation.request_inFont_iff, forall_exists_index, and_imp]

end Docwright.Edit

namespace Docwright.Replay

open Edit

def Format.inFont (font : String) : Format → Format
  | .characters style fields => .characters (style.inFont font) fields
  | f => f

def Ranged.inFont (font : String) (r : Ranged) : Ranged :=
  { r with format := r.format.inFont font }

def Passage.inFont (font : String) : Passage → Passage
  | .text content ranges => .text content (ranges.map (Ranged.inFont font))
  | p => p

theorem Ranged.edit_inFont (font : String) (c : Int) (r : Ranged) :
    (r.inFont font).edit c = (r.edit c).inFont font := by
  obtain ⟨start, width, format⟩ := r
  cases format <;> rfl

theorem Passage.edits_inFont (font : String) (c : Int) (p : Passage) :
    (p.inFont font).edits c = (p.edits c).map (Operation.inFont font) := by
  cases p with
  | text content ranges =>
    have ranged : (ranges.map (Ranged.inFont font)).map (Ranged.edit c) =
        (ranges.map (Ranged.edit c)).map (Operation.inFont font) := by
      rw [List.map_map, List.map_map]
      exact List.map_congr_left fun r _ => r.edit_inFont font c
    simp only [inFont, edits, List.map_append, ranged]
    split <;> rfl
  | pageBreak | table => rfl

theorem Passage.width_inFont (font : String) (p : Passage) : (p.inFont font).width = p.width := by
  cases p <;> rfl

theorem batch_inFont (font : String) (c : Int) (ps : List Passage) :
    batch c (ps.map (Passage.inFont font)) = (batch c ps).map (Operation.inFont font) := by
  induction ps generalizing c with
  | nil => rfl
  | cons p ps ih =>
    rw [List.map_cons, batch, batch, p.edits_inFont, p.width_inFont, ih, List.map_append]

end Docwright.Replay

namespace Docwright.Markdown

open Edit Replay

def StyledSpan.inFont (font : String) (s : StyledSpan) : StyledSpan :=
  { s with style := s.style.inFont font }

def Styled.inFont (font : String) (s : Styled) : Styled :=
  { s with spans := s.spans.map (StyledSpan.inFont font) }

theorem spanOver_inFont (font : String) (start : Nat) (text : String) (style : Style.TextStyle) :
    spanOver start text (style.inFont font) =
      (spanOver start text style).map (StyledSpan.inFont font) := by
  unfold spanOver
  split <;> rfl

/-- Nothing that stands around other content sets a font. -/
theorem Styled.within_inFont (font : String) (s : Styled) (start : Nat) {style : Style.TextStyle}
    (plain : style.fontFamily = none) :
    (s.inFont font).within start style = (s.within start style).inFont font := by
  have span := spanOver_inFont font start s.text style
  rw [Style.TextStyle.inFont_of_none plain] at span
  simp only [within, inFont, List.map_append, ← span]

section

variable (font : String) (rules : InlineRules)

mutual

theorem node_inFont (start : Nat) (i : Inline) :
    { rules with codeFont := font }.node start i = (rules.node start i).inFont font := by
  cases i with
  | text s | softBreak | hardBreak | html s => rfl
  | code s => exact congrArg (Styled.mk s) (spanOver_inFont font start s (.ofFont rules.codeFont))
  | emphasis cs | strong cs | strike cs =>
    simp only [InlineRules.node, all_inFont start cs]
    exact Styled.within_inFont font _ start rfl
  | link href cs =>
    simp only [InlineRules.node, all_inFont start cs]
    split
    · rfl
    · exact Styled.within_inFont font _ start rfl
  | image source cs => exact all_inFont start cs

theorem all_inFont (start : Nat) (is : List Inline) :
    { rules with codeFont := font }.all start is = (rules.all start is).inFont font := by
  cases is with
  | nil => rfl
  | cons i is =>
    simp only [InlineRules.all, node_inFont start i, Styled.inFont, all_inFont _ is,
      List.map_append]

end

end

theorem text_styled (font : String) (rules : InlineRules) (content : List Inline) :
    ({ rules with codeFont := font }.styled content).text = (rules.styled content).text :=
  congrArg (·.text) (all_inFont font rules 0 content)

theorem ranged_inFont (font : String) (s : StyledSpan) :
    (s.inFont font).ranged = s.ranged.inFont font := by
  simp only [StyledSpan.ranged, StyledSpan.inFont, Style.TextStyle.mask_inFont, Ranged.inFont,
    Format.inFont]

theorem spans_styled (font : String) (rules : InlineRules) (content : List Inline) :
    ({ rules with codeFont := font }.styled content).spans.map StyledSpan.ranged =
      ((rules.styled content).spans.map StyledSpan.ranged).map (Ranged.inFont font) := by
  rw [InlineRules.styled, all_inFont, Styled.inFont, List.map_map, List.map_map]
  exact List.map_congr_left fun s _ => ranged_inFont font s

section

variable (font other : String)

/-- A list shows no styles of its items, and so no font. -/
theorem listText_inFont (items : List Item) : listText font items = listText other items := by
  have line (tasks : Bool) (item : Item) : item.line font tasks = item.line other tasks := by
    simp only [Item.line, Item.text,
      text_styled font { codeFont := other, keepCheckboxes := !tasks }]
  simp only [listText, funext (line _)]

theorem headingPassage_inFont (level : Nat) (content : List Inline) :
    headingPassage font level content = (headingPassage other level content).inFont font := by
  have text := text_styled font { codeFont := other } content
  have spans := spans_styled font { codeFont := other } content
  simp only [headingPassage, text, spans, Passage.inFont, List.map_cons]
  rfl

theorem paragraphPassages_inFont (content : List Inline) : paragraphPassages font content =
    (paragraphPassages other content).map (Passage.inFont font) := by
  have text := text_styled font { codeFont := other } content
  have spans := spans_styled font { codeFont := other } content
  simp only [paragraphPassages, text, spans]
  split <;> rfl

theorem listPassages_inFont (ordered : Bool) (items : List Item) :
    listPassages font ordered items =
      (listPassages other ordered items).map (Passage.inFont font) := by
  rw [listPassages, listPassages, listText_inFont font other]
  split <;> rfl

theorem codePassages_inFont (content : String) : codePassages font content =
    (codePassages other content).map (Passage.inFont font) := by
  unfold codePassages
  split <;> rfl

mutual

theorem passages_inFont (block : Block (List Inline)) :
    passages font block = (passages other block).map (Passage.inFont font) := by
  cases block with
  | heading level content => exact congrArg ([·]) (headingPassage_inFont font other level content)
  | paragraph content => exact paragraphPassages_inFont font other content
  | list ordered items => exact listPassages_inFont font other ordered items
  | code content => exact codePassages_inFont font other content
  | rule | html content => rfl
  | quote children => exact allPassages_inFont children

theorem allPassages_inFont (blocks : List (Block (List Inline))) :
    allPassages font blocks = (allPassages other blocks).map (Passage.inFont font) := by
  cases blocks with
  | nil => rfl
  | cons block rest =>
    rw [allPassages, allPassages, passages_inFont block, allPassages_inFont rest, List.map_append]

end

theorem Document.compile_inFont (start : Int) (d : Document) :
    d.compile font start = (d.compile other start).map (List.map (Operation.inFont font)) := by
  by_cases first : 1 ≤ start
  · rw [compile_eq_batch font first, compile_eq_batch other first, allPassages_inFont font other,
      batch_inFont]
    rfl
  · -- a position that there is none of is refused before anything is written
    have outside : Builder.start start = .error (.startIndex start) := if_pos (by omega)
    rw [Document.compile, Document.compile, outside]
    rfl

theorem compile_inFont (text : String) (start : Int) : compile font text start =
    (compile other text start).map (List.map (Operation.inFont font)) := by
  unfold compile
  split
  · rfl
  · exact Document.compile_inFont font other start _

/-- Two fonts are asked for alike only if they are the same, or none is asked for. -/
theorem requests_compile_eq_iff (text : String) (start : Int) :
    (compile font text start).map requests = (compile other text start).map requests ↔
      ((∃ ops, compile other text start = .ok ops ∧ ∃ op ∈ ops, op.SetsFont) → font = other) := by
  have self := compile_inFont other other text start
  rw [compile_inFont font other]
  cases compiled : compile other text start with
  | error r => simp [Except.map]
  | ok ops =>
    have own : ops.map (Operation.inFont other) = ops := by
      rw [compiled] at self
      exact (Except.ok.inj self).symm
    have same := requests_inFont_iff font other ops
    rw [own] at same
    simpa [Except.map] using same

end

end Docwright.Markdown
