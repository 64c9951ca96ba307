import Docwright.Proofs.Replay.Styling
import Docwright.Proofs.Template.Pieces

namespace Docwright.Template

open Edit Replay Style

/-- The attributes of characters that a format asks for, as the document names them. -/
def TextFormat.characters (f : TextFormat) : List (String × Json) :=
  let when := fun (asked : Bool) (name : String) (value : Json) =>
    if asked then some (name, value) else none
  List.filterMap id [
    when f.bold "bold" (.bool true),
    when f.italic "italic" (.bool true),
    when f.underline "underline" (.bool true),
    when f.strikethrough "strikethrough" (.bool true),
    when (f.fontSize ≠ 0) "fontSize" (points (.int f.fontSize)),
    when (f.fontFamily ≠ "") "weightedFontFamily" (.obj [("fontFamily", .str f.fontFamily)]),
    f.color.map fun c => ("foregroundColor", TextStyle.colorField c.color),
    f.background.map fun c => ("backgroundColor", TextStyle.colorField c.color)]

def styleAttribute (s : NamedStyle) : String × Json :=
  ("namedStyleType", .str s.paragraphStyle)

def alignmentAttribute (a : TextAlignment) : String × Json :=
  ("alignment", .str a.direction)

/-- All the attributes that a format asks for. -/
def TextFormat.attributes (f : TextFormat) : List (String × Json) :=
  (f.namedStyle.map styleAttribute).toList ++ f.characters ++
    (f.alignment.map alignmentAttribute).toList

/-- The paragraph style of a title that asks for none. -/
def Piece.defaults : Piece → List (String × Json)
  | .title t => if t.format.namedStyle.isNone then [styleAttribute .title] else []
  | _ => []

/-- The batch sets on the piece all that its format asks for, and beyond that only its defaults. -/
def Piece.Honoured (edits : List RangeEdit) (p : Piece) (i : Insertion) : Prop :=
  ∀ f, p.format? = some f → ∃ index content, i.edit = .insertText index content ∧
    (∀ a ∈ f.attributes, a ∈ setOver index (index + Text.width content) edits) ∧
    ∀ a ∈ setOver index (index + Text.width content) edits, a ∈ f.attributes ∨ a ∈ p.defaults

/-- The format that a title ends up with. It always has a paragraph style, and never an
alignment. -/
def TextFormat.ofTitle (f : TextFormat) : TextFormat :=
  { f with namedStyle := some (f.namedStyle.getD .title), alignment := none }

def Piece.finalFormat? : Piece → Option TextFormat
  | .title t => some t.format.ofTitle
  | .element (.text _ f) => some f
  | _ => none

/-- The batch sets on the piece exactly the attributes of its final format. -/
def Piece.Formatted (edits : List RangeEdit) (p : Piece) (i : Insertion) : Prop :=
  ∀ f, p.finalFormat? = some f → ∃ index content, i.edit = .insertText index content ∧
    Styled edits index (index + Text.width content) f.attributes

theorem fields_unless_empty (s : TextStyle) :
    ((if s.isEmpty then none else some s).map TextStyle.fields).getD [] = s.fields := by
  unfold TextStyle.isEmpty
  cases h : s.fields with
  | nil => rfl
  | cons => simp [h]

theorem fields_textStyle? (f : TextFormat) :
    (f.textStyle?.map TextStyle.fields).getD [] = f.characters := by
  have flag (asked : Bool) (name : String) :
      (if asked then some true else none).map (fun b => (name, Json.bool b)) =
        if asked then some (name, Json.bool true) else none := by
    cases asked <;> rfl
  have size : (if f.fontSize = 0 then none else some (Number.int f.fontSize)).map
      (fun n => ("fontSize", points n)) =
        if decide (f.fontSize ≠ 0) then some ("fontSize", points (.int f.fontSize)) else none := by
    by_cases zero : f.fontSize = 0 <;> simp [zero]
  have family : (if f.fontFamily = "" then none else some f.fontFamily).map
      (fun font => ("weightedFontFamily", Json.obj [("fontFamily", .str font)])) =
        if decide (f.fontFamily ≠ "") then
          some ("weightedFontFamily", .obj [("fontFamily", .str f.fontFamily)]) else none := by
    by_cases none : f.fontFamily = "" <;> simp [none]
  refine (fields_unless_empty _).trans ?_
  have unlinked (fields : List (Option (String × Json))) :
      (fields ++ [none]).filterMap id = fields.filterMap id := by
    rw [List.filterMap_append]
    exact List.append_nil _
  simp only [TextStyle.fields, TextFormat.characters, flag, size, family, Option.map_map]
  exact unlinked [_, _, _, _, _, _, _, _]

theorem name_of_mem_characters {f : TextFormat} {a : String × Json} (h : a ∈ f.characters) :
    a.1 ∈ textNames := by
  rw [← fields_textStyle?] at h
  cases hs : f.textStyle? with
  | none => rw [hs] at h; cases h
  | some style =>
    rw [hs] at h
    exact List.Sublist.mem (List.mem_map_of_mem h) style.named

theorem sets_namedRanges (text : String) (style : Option NamedStyle) :
    (namedRanges text style).flatMap (fun r => r.format.sets) =
      (style.map styleAttribute).toList := by
  cases style <;> rfl

theorem sets_characterRanges (text : String) (f : TextFormat) :
    (characterRanges text f).flatMap (fun r => r.format.sets) = f.characters := by
  rw [← fields_textStyle?]
  unfold characterRanges
  cases f.textStyle? with
  | none => rfl
  | some style =>
    have kept : masked style.fields style.mask = style.fields := masked_maskOf style.isFieldName
    rw [List.flatMap_singleton]
    exact kept

theorem sets_alignmentRanges (text : String) (a : Option TextAlignment) :
    (alignmentRanges text a).flatMap (fun r => r.format.sets) =
      (a.map alignmentAttribute).toList := by
  cases a with
  | none => rfl
  | some a =>
    let lines : ParagraphFormat := { alignment := some a }
    have kept : masked lines.fields (maskOf lines.fields) = lines.fields :=
      masked_maskOf lines.isFieldName
    rw [alignmentRanges, List.flatMap_singleton]
    exact kept

theorem attributes_ofTitle (f : TextFormat) :
    f.ofTitle.attributes = styleAttribute (f.namedStyle.getD .title) :: f.characters :=
  List.append_nil _

/-- A title is set like a text of its final format. -/
theorem Piece.sets_passage {p : Piece} {f : TextFormat} (h : p.finalFormat? = some f) :
    p.passage.sets = f.attributes := by
  cases p with
  | heading => cases h
  | title t =>
    cases h
    simp only [passage, Title.passage, Passage.sets, List.flatMap_cons, sets_characterRanges,
      attributes_ofTitle]
    rfl
  | element e =>
    cases e with
    | text content g =>
      cases h
      simp only [passage, Element.passage, textPassage, Passage.sets, List.flatMap_append,
        sets_namedRanges, sets_characterRanges, sets_alignmentRanges, TextFormat.attributes]
    | list | table | pageBreak | rule => cases h

theorem Piece.isText_of_finalFormat? {p : Piece} {f : TextFormat} {i : Insertion}
    (h : p.finalFormat? = some f) (writes : p.Writes i) :
    ∃ index content, i.edit = .insertText index content := by
  obtain ⟨number, edit⟩ := i
  cases p with
  | heading => cases h
  | title => cases writes; exact ⟨_, _, rfl⟩
  | element e =>
    cases e with
    | text => cases writes; exact ⟨_, _, rfl⟩
    | list | table | pageBreak | rule => cases h

theorem forall₂_formatted {t : Template} (h : Proper t) (start : Int) :
    List.Forall₂ (Piece.Formatted (rangeEdits 0 (batch start (passages t)))) (pieces t)
      (insertions 0 (batch start (passages t))) := by
  have styled := styled_batch 0 start (whole_passages h)
  have writes := forall₂_writes h start
  rw [passages_eq_map] at styled writes ⊢
  refine List.Forall₂.mp ?_ writes (List.forall₂_map_left_iff.mp styled)
  intro p i writes styled f given
  obtain ⟨index, content, edit⟩ := Piece.isText_of_finalFormat? given writes
  obtain ⟨_, _, styled⟩ := styled index content edit
  exact ⟨index, content, edit, Piece.sets_passage given ▸ styled⟩

/-- The piece is no title that asks for an alignment. -/
def Piece.AlignsNoTitle (p : Piece) : Prop :=
  ∀ t, p = .title t → t.format.alignment = none

theorem alignment_not_mem (f : TextFormat) (a : TextAlignment) :
    alignmentAttribute a ∉ f.ofTitle.attributes := by
  have other : "alignment" ∉ "namedStyleType" :: textNames := by decide
  rw [attributes_ofTitle]
  intro h
  apply other
  rcases List.mem_cons.mp h with same | given
  · exact List.mem_cons.mpr (.inl (congrArg Prod.fst same))
  · exact List.mem_cons_of_mem _ (name_of_mem_characters given)

/-- Without an alignment, a title gets what it asks for and its default. -/
theorem mem_attributes_ofTitle {f : TextFormat} (unaligned : f.alignment = none)
    {a : String × Json} : a ∈ f.ofTitle.attributes ↔
      a ∈ f.attributes ∨ a ∈ if f.namedStyle.isNone then [styleAttribute .title] else [] := by
  rw [attributes_ofTitle]
  cases hs : f.namedStyle with
  | none => simp [TextFormat.attributes, hs, unaligned, or_comm]
  | some s => simp [TextFormat.attributes, hs, unaligned]

theorem Piece.honoured_iff {edits : List RangeEdit} {p : Piece} {i : Insertion}
    (formatted : p.Formatted edits i) : p.Honoured edits i ↔ p.AlignsNoTitle := by
  cases p with
  | heading =>
    constructor
    · exact fun _ _ => nofun
    · exact fun _ _ => nofun
  | element e =>
    constructor
    · exact fun _ _ => nofun
    · intro _ f given
      have final : (Piece.element e).finalFormat? = some f := by
        cases e with
        | text => exact given
        | list | table | pageBreak | rule => cases given
      obtain ⟨index, content, edit, styled⟩ := formatted f final
      refine ⟨index, content, edit, ?_, ?_⟩
      · intro a ha
        rwa [styled.sets]
      · intro a ha
        rw [styled.sets] at ha
        exact .inl ha
  | title t =>
    obtain ⟨index, content, edit, styled⟩ := formatted _ rfl
    constructor
    · rintro honoured _ ⟨⟩
      obtain ⟨index', content', edit', asked, _⟩ := honoured _ rfl
      cases edit.symm.trans edit'
      cases aligned : t.format.alignment with
      | none => rfl
      | some a =>
        have given : alignmentAttribute a ∈ t.format.attributes := by
          simp [TextFormat.attributes, aligned]
        have set := asked _ given
        rw [styled.sets] at set
        exact absurd set (alignment_not_mem t.format a)
    · rintro plain _ ⟨⟩
      have set (a : String × Json) := mem_attributes_ofTitle (plain t rfl) (a := a)
      refine ⟨index, content, edit, ?_, ?_⟩
      · intro a asked
        rw [styled.sets]
        exact (set a).mpr (.inl asked)
      · intro a given
        rw [styled.sets] at given
        exact (set a).mp given

theorem forall₂_honoured_iff {edits : List RangeEdit} {ps : List Piece} {is : List Insertion}
    (formatted : List.Forall₂ (Piece.Formatted edits) ps is) :
    List.Forall₂ (Piece.Honoured edits) ps is ↔ ∀ p ∈ ps, p.AlignsNoTitle := by
  induction formatted with
  | nil => exact ⟨fun _ => List.forall_mem_nil _, fun _ => .nil⟩
  | cons formatted _ ih =>
    rw [List.forall₂_cons, List.forall_mem_cons, ih, Piece.honoured_iff formatted]

theorem title_mem_pieces {t : Template} {title : Title} :
    Piece.title title ∈ pieces t ↔ t.title = some title := by
  simp [pieces, Section.pieces]

/-- A batch sets on each title and on each text of an accepted template the attributes of its final
format, and no edit reaches into them otherwise. This honours all that their formats ask for, with
nothing beyond it but the paragraph style of a title that asks for none, if and only if the title
does not ask for an alignment. -/
theorem honoured_iff_title_unaligned {v : Json} {t : Template}
    (accepted : Template.ofJson v = .ok t) (start : Int) (first : 1 ≤ start) :
    ∃ c, t.compile start = .ok c ∧
      List.Forall₂ Piece.Writes (pieces t) (insertions 0 c.operations) ∧
      List.Forall₂ (Piece.Formatted (rangeEdits 0 c.operations)) (pieces t)
        (insertions 0 c.operations) ∧
      (List.Forall₂ (Piece.Honoured (rangeEdits 0 c.operations)) (pieces t)
        (insertions 0 c.operations) ↔
        ∀ title, t.title = some title → title.format.alignment = none) := by
  have proper := proper_of_ofJson accepted
  obtain ⟨warnings, compiled⟩ := compile_eq_batch proper first
  have formatted := forall₂_formatted proper start
  refine ⟨_, compiled, forall₂_writes proper start, formatted, ?_⟩
  rw [forall₂_honoured_iff formatted]
  constructor
  · intro aligns title given
    exact aligns _ (title_mem_pieces.mpr given) title rfl
  · rintro plain _ hp title rfl
    exact plain title (title_mem_pieces.mp hp)

/-- A bold title, and a text that asks for everything at once. -/
def adorned : Json :=
  .obj [("title", .obj [("text", .str "T"), ("style", .obj [("bold", .bool true)])]),
    ("elements", .arr [.obj [("type", .str "text"), ("text", .str "x"), ("style", .obj [
      ("bold", .bool true), ("italic", .bool true), ("underline", .bool true),
      ("strikethrough", .bool true), ("font_size", .num (.int 12)), ("font_family", .str "Arial"),
      ("color", .str "#ff0000"), ("bg_color", .str "#00ff00"), ("named_style", .str "subtitle"),
      ("alignment", .str "center")])]])]

/-- Such a title is honoured, and so is the text behind it. -/
theorem adorned_honoured : ∃ t c, Template.ofJson adorned = .ok t ∧ t.compile 1 = .ok c ∧
    (pieces t).length = 2 ∧
    List.Forall₂ (Piece.Honoured (rangeEdits 0 c.operations)) (pieces t)
      (insertions 0 c.operations) := by
  have accepted : ∃ t, Template.ofJson adorned = .ok t ∧ (pieces t).length = 2 ∧
      ∀ title, t.title = some title → title.format.alignment = none :=
    ⟨_, by with_unfolding_all rfl, rfl, by rintro _ ⟨⟩; rfl⟩
  obtain ⟨t, accepted, two, plain⟩ := accepted
  obtain ⟨c, compiled, _, _, honoured⟩ := honoured_iff_title_unaligned accepted 1 (by decide)
  exact ⟨t, c, accepted, compiled, two, honoured.mpr plain⟩

/-- A title that is to be centred. -/
def centredTitle : Json :=
  .obj [("title", .obj [("text", .str "T"), ("style", .obj [("alignment", .str "center")])])]

/-- All that is set on the title is its default, although the template is accepted. -/
theorem centredTitle_not_honoured : ∃ t c, Template.ofJson centredTitle = .ok t ∧
    t.compile 1 = .ok c ∧ setOver 1 4 (rangeEdits 0 c.operations) = [styleAttribute .title] ∧
    ¬List.Forall₂ (Piece.Honoured (rangeEdits 0 c.operations)) (pieces t)
      (insertions 0 c.operations) := by
  have compiled : ∃ t c title, Template.ofJson centredTitle = .ok t ∧ t.compile 1 = .ok c ∧
      setOver 1 4 (rangeEdits 0 c.operations) = [styleAttribute .title] ∧
      pieces t = [.title title] ∧ title.format.alignment = some .center ∧
      insertions 0 c.operations = [⟨0, .insertText 1 "T\n\n"⟩] :=
    ⟨_, _, _, by with_unfolding_all rfl, rfl, rfl, rfl, rfl, rfl⟩
  obtain ⟨t, c, title, accepted, compiled, set, piece, centred, inserted⟩ := compiled
  refine ⟨t, c, accepted, compiled, set, ?_⟩
  rw [piece, inserted]
  intro honoured
  cases honoured with
  | cons first _ =>
    obtain ⟨index, content, edit, asked, _⟩ := first _ rfl
    cases edit
    have aligned := asked (alignmentAttribute .center) (by simp [TextFormat.attributes, centred])
    have width : (1 : Int) + Text.width "T\n\n" = 4 := by decide
    rw [width, set, List.mem_singleton] at aligned
    exact absurd (congrArg Prod.fst aligned) (by decide)

end Docwright.Template
