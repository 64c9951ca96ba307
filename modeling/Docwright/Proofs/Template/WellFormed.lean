import Docwright.Proofs.Style.Mask
import Docwright.Proofs.Template.Acceptance
import Docwright.Proofs.Template.Pieces

/-!
The batch of an accepted template asks for nothing that the document would refuse: its texts and
ranges are not empty, its styles and lists are known to the document, its masks name something and
its colours were read from texts (`wellFormed_of_mem_batch`).
-/

namespace Docwright.Replay

open Style

/-- A colour that some text stands for. -/
def IsColor (c : Color) : Prop :=
  ∃ s, Color.ofString? s = some c

def Format.WellFormed : Format → Prop
  | .named style => style ∈ NamedStyle.all.map NamedStyle.paragraphStyle
  | .characters style mask =>
    mask ≠ "" ∧ ∀ c, style.foreground = some c ∨ style.background = some c → IsColor c
  | .list preset => preset ∈ ListKind.all.map ListKind.preset
  | .lines _ mask => mask ≠ ""

def Passage.WellFormed : Passage → Prop
  | .text content ranges => content ≠ "" ∧ ∀ r ∈ ranges, 0 < r.width ∧ r.format.WellFormed
  | .pageBreak => True
  | .table rows columns => 1 ≤ rows ∧ 1 ≤ columns

end Docwright.Replay

namespace Docwright.Edit

open Replay

def Operation.WellFormed : Operation → Prop
  | .insertText _ text => text ≠ ""
  | .insertPageBreak _ => True
  | .insertTable _ rows columns => 1 ≤ rows ∧ 1 ≤ columns
  | .nameParagraphs span style => span.start < span.stop ∧ (Format.named style).WellFormed
  | .styleText span style mask =>
    span.start < span.stop ∧ (Format.characters style mask).WellFormed
  | .createList span preset => span.start < span.stop ∧ (Format.list preset).WellFormed
  | .formatParagraphs span fields mask =>
    span.start < span.stop ∧ (Format.lines fields mask).WellFormed
  | .delete span => span.start < span.stop
  | .replaceAll find _ _ => find ≠ ""

theorem wellFormed_over {span : Span} {f : Format} (range : span.start < span.stop)
    (h : f.WellFormed) : (f.over span).WellFormed := by
  cases f <;> exact ⟨range, h⟩

end Docwright.Edit

namespace Docwright.Replay

open Edit Style

theorem wellFormed_of_mem_edits {p : Passage} (h : p.WellFormed) {c : Int} :
    ∀ op ∈ p.edits c, op.WellFormed := by
  cases p with
  | pageBreak | table =>
    intro op hop
    cases List.mem_singleton.mp hop
    exact h
  | text content ranges =>
    obtain ⟨filled, proper⟩ := h
    simp only [Passage.edits, filled, ↓reduceIte, List.singleton_append, List.forall_mem_cons]
    refine ⟨filled, ?_⟩
    intro op hop
    obtain ⟨r, hr, rfl⟩ := List.mem_map.mp hop
    obtain ⟨range, format⟩ := proper r hr
    exact wellFormed_over (by simp only [Ranged.span]; omega) format

theorem wellFormed_of_mem_batch {ps : List Passage} (h : ∀ p ∈ ps, p.WellFormed) {c : Int} :
    ∀ op ∈ batch c ps, op.WellFormed := by
  induction ps generalizing c with
  | nil => exact List.forall_mem_nil _
  | cons p ps ih =>
    intro op hop
    rcases List.mem_append.mp hop with here | later
    · exact wellFormed_of_mem_edits (h p List.mem_cons_self) op here
    · exact ih (fun q hq => h q (List.mem_cons_of_mem _ hq)) op later

end Docwright.Replay

namespace Docwright.Template

open Edit Replay Style Checked

/-- The colours of a format are those that it was given. -/
def TextFormat.Colored (f : TextFormat) : Prop :=
  ∀ c, f.color = some c ∨ f.background = some c → Color.ofString? c.written = some c.color

theorem ofString?_of_readWrittenColor {v : Json} {c : WrittenColor}
    (h : readWrittenColor v = .ok (some c)) : Color.ofString? c.written = some c.color := by
  obtain ⟨s, _, h⟩ := andThen_eq_ok h
  obtain ⟨color, read, h⟩ := andThen_eq_ok h
  cases color with
  | none => cases h
  | some color =>
    cases h
    rw [ofRefusal_eq_ok_iff] at read
    unfold readOptionalColor at read
    split at read
    · cases read
    · simp only [readColor] at read
      split at read
      · next found => cases read; exact found
      · cases read

theorem ofString?_of_optional {members : List (String × Json)} {name : String} {c : WrittenColor}
    (h : optional members name none readWrittenColor = .ok (some c)) :
    Color.ofString? c.written = some c.color := by
  rcases optional_eq_ok_iff.mp h with ⟨_, absent⟩ | ⟨v, _, read⟩
  · cases absent
  · exact ofString?_of_readWrittenColor read

theorem colored_readFormat {v : Json} {f : TextFormat} (h : readFormat v = .ok f) : f.Colored := by
  obtain ⟨members, h⟩ := readObject_eq_ok h
  obtain ⟨_, _, upToStyle, _, rfl⟩ := seq_eq_ok h
  obtain ⟨_, _, upToBackground, _, rfl⟩ := seq_eq_ok upToStyle
  obtain ⟨_, background, upToColor, hbackground, rfl⟩ := seq_eq_ok upToBackground
  obtain ⟨_, color, upToFamily, hcolor, rfl⟩ := seq_eq_ok upToColor
  obtain ⟨_, _, upToSize, _, rfl⟩ := seq_eq_ok upToFamily
  obtain ⟨_, _, upToStrikethrough, _, rfl⟩ := seq_eq_ok upToSize
  obtain ⟨_, _, upToUnderline, _, rfl⟩ := seq_eq_ok upToStrikethrough
  obtain ⟨_, _, upToItalic, _, rfl⟩ := seq_eq_ok upToUnderline
  obtain ⟨_, _, opened, _, rfl⟩ := seq_eq_ok upToItalic
  obtain ⟨_, _, rfl⟩ := map_eq_ok opened
  rintro c (rfl | rfl)
  · exact ofString?_of_optional hcolor
  · exact ofString?_of_optional hbackground

theorem colored_optional {members : List (String × Json)} {f : TextFormat}
    (h : optional members "style" {} readFormat = .ok f) : f.Colored := by
  rcases optional_eq_ok_iff.mp h with ⟨_, rfl⟩ | ⟨v, _, read⟩
  · rintro c (given | given) <;> cases given
  · exact colored_readFormat read

theorem format_of_settleElement {members : List (String × Json)} {raw : RawElement}
    {content : String} {f : TextFormat}
    (h : settleElement members raw = .ok (.text content f)) : raw.format = f := by
  simp only [settleElement] at h
  split at h
  · cases hk : raw.kind with
    | text => rw [hk] at h; cases h; rfl
    | list =>
      rw [hk] at h
      obtain ⟨_, _, h⟩ := exists_of_bind (ofRefusal_eq_ok_iff.mp h)
      obtain ⟨_, _, h⟩ := exists_of_bind h
      obtain ⟨_, _, h⟩ := exists_of_bind h
      cases h
    | table =>
      rw [hk] at h
      simp only at h
      split at h <;> cases h
    | pageBreak | rule => rw [hk] at h; cases h
  · cases h

theorem colored_readElement {v : Json} {content : String} {f : TextFormat}
    (h : readElement v = .ok (.text content f)) : f.Colored := by
  obtain ⟨raw, read, settled⟩ := andThen_eq_ok h
  obtain ⟨members, read⟩ := readObject_eq_ok read
  rw [← format_of_settleElement settled]
  exact colored_optional (reads_of_readRawElement read).format

theorem colored_readTitleText {v : Json} {t : Title} (h : readTitleText v = .ok t) :
    t.format.Colored := by
  obtain ⟨members, h⟩ := readObject_eq_ok h
  obtain ⟨_, format, opened, hformat, rfl⟩ := seq_eq_ok h
  obtain ⟨_, _, rfl⟩ := map_eq_ok opened
  exact colored_optional hformat

/-- What a piece of an accepted template was read from. -/
def Piece.WasRead : Piece → Prop
  | .title t => ∃ v, readTitleText v = .ok t
  | .heading s => ∃ v, readSection v = .ok s
  | .element e => ∃ v, readElement v = .ok e

theorem Piece.WasRead.colored {p : Piece} (h : p.WasRead) {f : TextFormat}
    (given : p.format? = some f) : f.Colored := by
  cases p with
  | heading => cases given
  | title t =>
    cases given
    obtain ⟨v, read⟩ := h
    exact colored_readTitleText read
  | element e =>
    cases e with
    | text content f =>
      cases given
      obtain ⟨v, read⟩ := h
      exact colored_readElement read
    | list | table | pageBreak | rule => cases given

theorem wasRead_of_mem_pieces {v : Json} {t : Template} (h : readTemplate v = .ok t) :
    ∀ p ∈ pieces t, p.WasRead := by
  obtain ⟨title, sections, elements⟩ := partsRead_of_readTemplate h
  intro p hp
  rcases List.mem_append.mp hp with hp | hp
  · rcases List.mem_append.mp hp with hp | hp
    · obtain ⟨given, same, rfl⟩ := Option.map_eq_some_iff.mp (Option.mem_toList.mp hp)
      exact title given same
    · obtain ⟨s, hs, hp⟩ := List.mem_flatMap.mp hp
      obtain ⟨w, read⟩ := sections s hs
      rcases List.mem_cons.mp hp with rfl | hp
      · exact ⟨w, read⟩
      · obtain ⟨e, he, rfl⟩ := List.mem_map.mp hp
        exact content_of_readSection read e he
  · obtain ⟨e, he, rfl⟩ := List.mem_map.mp hp
    exact elements e he

theorem wellFormed_named (s : NamedStyle) : (Format.named s.paragraphStyle).WellFormed := by
  cases s <;> simp [Format.WellFormed, NamedStyle.all]

theorem wellFormed_list (k : ListKind) : (Format.list k.preset).WellFormed := by
  cases k <;> simp [Format.WellFormed, ListKind.all]

theorem wellFormed_lines {f : ParagraphFormat} (h : f.fields ≠ []) :
    (Format.lines f.fields (maskOf f.fields)).WellFormed :=
  maskOf_ne_empty h f.isFieldName

theorem indented_ne_nil {levels : Int} (deep : 0 < levels) :
    (ParagraphFormat.indented levels).fields ≠ [] := by
  have positive : Number.lt 0 (.int (levels * pointsPerIndent)) := by
    have order : Number.order? 0 (.int (levels * pointsPerIndent)) =
        some (compare 0 (levels * pointsPerIndent)) := rfl
    rw [Number.lt, order]
    simp [Int.compare_eq_lt, pointsPerIndent]
    omega
  have given : ("indentStart", points (.int (levels * pointsPerIndent))) ∈
      (ParagraphFormat.indented levels).fields := by
    simp [ParagraphFormat.fields, ParagraphFormat.indented, lengthField, positive]
  exact List.ne_nil_of_mem given

theorem textStyle?_eq_some {f : TextFormat} {style : TextStyle} (h : f.textStyle? = some style) :
    style.fields ≠ [] ∧ style.foreground = f.color.map (·.color) ∧
      style.background = f.background.map (·.color) := by
  obtain ⟨filled, same⟩ := Option.ite_none_left_eq_some.mp h
  cases same
  exact ⟨by simpa [TextStyle.isEmpty] using filled, rfl, rfl⟩

theorem wellFormed_characters {f : TextFormat} (colored : f.Colored) {style : TextStyle}
    (h : f.textStyle? = some style) : (Format.characters style style.mask).WellFormed := by
  obtain ⟨filled, foreground, background⟩ := textStyle?_eq_some h
  refine ⟨maskOf_ne_empty filled style.isFieldName, ?_⟩
  rw [foreground, background]
  intro c given
  have written : ∃ w : WrittenColor, (f.color = some w ∨ f.background = some w) ∧ w.color = c := by
    rcases given with given | given
    · obtain ⟨w, hw, rfl⟩ := Option.map_eq_some_iff.mp given
      exact ⟨w, .inl hw, rfl⟩
    · obtain ⟨w, hw, rfl⟩ := Option.map_eq_some_iff.mp given
      exact ⟨w, .inr hw, rfl⟩
  obtain ⟨w, worn, rfl⟩ := written
  exact ⟨w.written, colored w worn⟩

/-- Ranges that something can be set on. -/
def Settable (ranges : List Ranged) : Prop :=
  ∀ r ∈ ranges, 0 < r.width ∧ r.format.WellFormed

section

variable {text : String} (filled : text ≠ "")

include filled

theorem settable_whole {f : Format} (h : f.WellFormed) : Settable [.whole text f] := by
  intro r hr
  cases List.mem_singleton.mp hr
  exact ⟨(Ranged.whole_fits filled f).1, h⟩

theorem settable_namedRanges (style : Option NamedStyle) : Settable (namedRanges text style) := by
  cases style with
  | none => exact List.forall_mem_nil _
  | some s => exact settable_whole filled (wellFormed_named s)

theorem settable_characterRanges {f : TextFormat} (colored : f.Colored) :
    Settable (characterRanges text f) := by
  unfold characterRanges
  cases h : f.textStyle? with
  | none => exact List.forall_mem_nil _
  | some style => exact settable_whole filled (wellFormed_characters colored h)

theorem settable_alignmentRanges (a : Option TextAlignment) :
    Settable (alignmentRanges text a) := by
  cases a with
  | none => exact List.forall_mem_nil _
  | some a => exact settable_whole filled (wellFormed_lines (List.cons_ne_nil _ _))

theorem settable_indent (levels : Int) : Settable
    (if 0 < levels then [lineRange text (.indented levels)] else []) := by
  split
  · next deep =>
    exact settable_whole filled (wellFormed_lines (indented_ne_nil deep))
  · exact List.forall_mem_nil _

end

theorem Settable.append {rs qs : List Ranged} (h : Settable rs) (h' : Settable qs) :
    Settable (rs ++ qs) :=
  List.forall_mem_append.mpr ⟨h, h'⟩

theorem Piece.WasRead.wellFormed {p : Piece} (h : p.WasRead) : p.passage.WellFormed := by
  cases p with
  | title t =>
    have filled : t.text ++ "\n\n" ≠ "" := Text.append_ne (by decide)
    exact ⟨filled, (settable_whole filled (wellFormed_named _)).append
      (settable_characterRanges filled (h.colored rfl))⟩
  | heading s =>
    have filled : s.heading ++ "\n" ≠ "" := Text.append_ne (by decide)
    exact ⟨filled, settable_whole filled (wellFormed_named _)⟩
  | element e =>
    obtain ⟨v, read⟩ := id h
    have proper := proper_readElement read
    cases e with
    | text content f =>
      have filled : content ++ "\n" ≠ "" := Text.append_ne (by decide)
      exact ⟨filled, ((settable_namedRanges filled _).append
        (settable_characterRanges filled (h.colored rfl))).append
        (settable_alignmentRanges filled _)⟩
    | list kind items indent =>
      have filled : String.join (items.map (· ++ "\n")) ≠ "" :=
        Text.join_ne proper.1 fun _ _ => Text.append_ne (by decide)
      exact ⟨filled, (settable_whole filled (wellFormed_list kind)).append
        (settable_indent filled indent)⟩
    | table => exact proper
    | pageBreak => trivial
    | rule => exact ⟨by decide, List.forall_mem_nil _⟩

end Docwright.Template
