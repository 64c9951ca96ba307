import Docwright.Proofs.Markdown.Batch
import Docwright.Proofs.Markdown.Nodes
import Docwright.Proofs.Replay.Masks
import Docwright.Proofs.Template.WellFormed
import Docwright.Writer.Section
import Docwright.Writer.Structure

/-!
Everything that is compiled sets ranges with the masks of what it sets: Markdown, templates, lists
and texts, the contents of tables and the bodies of sections.
-/

namespace Docwright.Markdown

open Edit Replay Style

theorem InlineRules.fields_of_style? {rules : InlineRules} {i : Inline} {style : TextStyle}
    (h : rules.style? i = some style) : style.fields ≠ [] := by
  cases i with
  | text | softBreak | hardBreak | html | image => cases h
  | code | emphasis | strong | strike =>
    cases h
    exact List.cons_ne_nil _ _
  | link href cs =>
    obtain ⟨_, same⟩ := Option.ite_none_left_eq_some.mp h
    cases same
    exact List.cons_ne_nil _ _

theorem masked_spans (rules : InlineRules) (content : List Inline) :
    ∀ r ∈ (rules.styled content).spans.map StyledSpan.ranged, r.format.Masked := by
  intro r hr
  obtain ⟨span, hs, rfl⟩ := List.mem_map.mp hr
  have spans : (rules.styled content).spans = (occurrencesIn [] content).filterMap rules.span? :=
    rules.spans_all [] content
  rw [spans] at hs
  obtain ⟨o, _, found⟩ := List.mem_filterMap.mp hs
  obtain ⟨_, styled⟩ := Option.ite_none_left_eq_some.mp found
  obtain ⟨style, given, rfl⟩ := Option.map_eq_some_iff.mp styled
  exact TextStyle.lists_mask (InlineRules.fields_of_style? given)

theorem masked_paragraphPassages (font : String) (content : List Inline) :
    ∀ p ∈ paragraphPassages font content, p.Masked := by
  unfold paragraphPassages
  dsimp only
  split
  · exact List.forall_mem_nil _
  · exact List.forall_mem_singleton.mpr (masked_spans _ content)

theorem masked_codePassages (font content : String) : ∀ p ∈ codePassages font content, p.Masked := by
  unfold codePassages
  split
  · exact List.forall_mem_nil _
  · have styled : (Format.characters (.ofFont font) (TextStyle.ofFont font).mask).Masked :=
      TextStyle.lists_mask (List.cons_ne_nil _ _)
    refine List.forall_mem_cons.mpr ⟨List.forall_mem_singleton.mpr styled, ?_⟩
    exact List.forall_mem_singleton.mpr (List.forall_mem_nil _)

theorem masked_listPassages (font : String) (ordered : Bool) (items : List Item) :
    ∀ p ∈ listPassages font ordered items, p.Masked := by
  unfold listPassages
  split
  · exact List.forall_mem_nil _
  · exact List.forall_mem_singleton.mpr (List.forall_mem_singleton.mpr trivial)

theorem masked_allPassages (font : String) (d : Document) :
    ∀ p ∈ allPassages font d, p.Masked :=
  OfBlocks.allPassages (P := Passage.Masked) {
    heading := fun _ content => List.forall_mem_cons.mpr ⟨trivial, masked_spans _ content⟩
    paragraph := masked_paragraphPassages font
    list := masked_listPassages font
    code := masked_codePassages font
    rule := List.forall_mem_nil _ } d

end Docwright.Markdown

namespace Docwright.Template

open Edit Replay Style

variable (text : String)

theorem masked_lines {f : ParagraphFormat} (filled : f.fields ≠ []) :
    (lineRange text f).format.Masked :=
  ParagraphFormat.lists_mask filled

theorem masked_namedRanges (style : Option NamedStyle) :
    ∀ r ∈ namedRanges text style, r.format.Masked := by
  cases style with
  | none => exact List.forall_mem_nil _
  | some s => exact List.forall_mem_singleton.mpr trivial

theorem masked_characterRanges (f : TextFormat) :
    ∀ r ∈ characterRanges text f, r.format.Masked := by
  unfold characterRanges
  cases h : f.textStyle? with
  | none => exact List.forall_mem_nil _
  | some style =>
    exact List.forall_mem_singleton.mpr (TextStyle.lists_mask (textStyle?_eq_some h).1)

theorem masked_alignmentRanges (a : Option TextAlignment) :
    ∀ r ∈ alignmentRanges text a, r.format.Masked := by
  cases a with
  | none => exact List.forall_mem_nil _
  | some a => exact List.forall_mem_singleton.mpr (masked_lines text (List.cons_ne_nil _ _))

theorem masked_textPassage (f : TextFormat) : (textPassage text f).Masked :=
  List.forall_mem_append.mpr ⟨List.forall_mem_append.mpr
    ⟨masked_namedRanges text f.namedStyle, masked_characterRanges text f⟩,
    masked_alignmentRanges text f.alignment⟩

theorem masked_listPassage (kind : ListKind) (items : List String) (indent : Int) :
    (listPassage kind items indent).Masked := by
  refine List.forall_mem_cons.mpr ⟨trivial, ?_⟩
  split
  · next deep => exact List.forall_mem_singleton.mpr (masked_lines _ (indented_ne_nil deep))
  · exact List.forall_mem_nil _

theorem Piece.masked (p : Piece) : p.passage.Masked := by
  cases p with
  | title t => exact List.forall_mem_cons.mpr ⟨trivial, masked_characterRanges _ t.format⟩
  | heading s => exact List.forall_mem_singleton.mpr trivial
  | element e =>
    cases e with
    | text content f => exact masked_textPassage _ f
    | list kind items indent => exact masked_listPassage kind items indent
    | table | pageBreak => trivial
    | rule => exact List.forall_mem_nil _

theorem masked_passages (t : Template) : ∀ p ∈ passages t, p.Masked := by
  rw [passages_eq_map]
  exact List.forall_mem_map.mpr fun p _ => p.masked

end Docwright.Template

namespace Docwright.Table

open Edit Replay Style

theorem masked_headerStyle (i : Job.Insert) : (Job.headerStyle i).Masked := by
  have lists : (Format.characters TextStyle.boldface "bold").Masked :=
    lists_singleton (by decide) (.bool true)
  exact masked_over lists _

theorem masked_fill (j : Job) (t : Snapshot.Table) : ∀ op ∈ j.fill t, op.Masked := by
  intro op hop
  rcases List.mem_append.mp hop with inserted | styled
  · obtain ⟨i, _, rfl⟩ := List.mem_map.mp inserted
    exact masked_of_no_range rfl
  · obtain ⟨i, _, rfl⟩ := List.mem_map.mp styled
    exact masked_headerStyle i

theorem masked_operations {j : Job} {ops : List Operation} (h : j.operations = .ok ops) :
    ∀ op ∈ ops, op.Masked := by
  unfold Job.operations at h
  split at h
  · cases h
    exact masked_fill j _
  · cases h

end Docwright.Table

namespace Docwright.Edit

open Replay Style

/-- So far, every range is set with the mask of what is set. -/
def Builder.Masked (b : Builder) : Prop :=
  ∀ op ∈ b.operations, op.Masked

variable {b built : Builder}

theorem Builder.Masked.push (h : b.Masked) {op : Operation} (masked : op.Masked) :
    (b.push op).Masked :=
  List.forall_mem_append.mpr ⟨h, List.forall_mem_singleton.mpr masked⟩

theorem Builder.Masked.insertText (h : b.Masked) (text : String) : (b.insertText text).Masked := by
  unfold Builder.insertText
  split
  · exact h
  · exact h.push (masked_of_no_range rfl)

theorem Builder.Masked.push_span (h : b.Masked) {start stop : Int} {op : Span → Operation}
    (masked : ∀ span, (op span).Masked)
    (pushed : (Span.of start stop).map (fun span => b.push (op span)) = .ok built) :
    built.Masked := by
  cases hs : Span.of start stop with
  | error r =>
    rw [hs] at pushed
    cases pushed
  | ok span =>
    rw [hs] at pushed
    cases pushed
    exact h.push (masked span)

theorem Builder.Masked.deleteRange (h : b.Masked) {start stop : Int}
    (deleted : b.deleteRange start stop = .ok built) : built.Masked :=
  h.push_span (fun _ => masked_of_no_range rfl) deleted

theorem Builder.Masked.nameParagraphs (h : b.Masked) {start stop : Int} {style : String}
    (named : b.nameParagraphs start stop style = .ok built) : built.Masked :=
  h.push_span (masked_over (f := .named style) trivial) named

theorem Builder.Masked.formatParagraphs (h : b.Masked) {start stop : Int}
    {fields : List (String × Json)} {mask : String} (lists : Lists mask fields)
    (formatted : b.formatParagraphs start stop fields mask = .ok built) : built.Masked :=
  h.push_span (masked_over (f := .lines fields mask) lists) formatted

end Docwright.Edit

namespace Docwright.Writer

open Edit Replay Style

theorem masked_editsAt {index : Int} {build : Builder → Except Refusal Builder}
    {ops : List Operation}
    (builds : ∀ b built, b.Masked → build b = .ok built → built.Masked)
    (h : editsAt index build = .ok ops) : ∀ op ∈ ops, op.Masked := by
  obtain ⟨b, begun, h⟩ := exists_of_bind h
  obtain ⟨built, done, h⟩ := exists_of_bind h
  cases h
  refine builds b built ?_ done
  unfold Builder.start at begun
  split at begun
  · cases begun
  · cases begun
    exact List.forall_mem_nil _

/-- Inserts the new body of a section; behind the end of the document it is made plain. -/
def placeBody (stop : Int) (s : Snapshot.Section) (content : String) (b : Builder) :
    Except Refusal Builder :=
  let inserted := b.insertText ("\n" ++ content ++ "\n")
  if stop < s.stop then inserted.nameParagraphs (b.cursor + 1) inserted.cursor "NORMAL_TEXT"
  else .ok inserted

theorem replaceBody_eq (stop : Int) (s : Snapshot.Section) (next : Option Int) (content : String) :
    replaceBody stop s next content = editsAt (min s.stop stop) fun b =>
      (if s.stop < next.getD stop then b.deleteRange s.stop (next.getD stop) else .ok b) >>=
        placeBody stop s content := by
  unfold replaceBody
  congr 1
  funext b
  dsimp only
  split <;> rfl

theorem masked_replaceBody {stop : Int} {s : Snapshot.Section} {next : Option Int}
    {content : String} {ops : List Operation} (h : replaceBody stop s next content = .ok ops) :
    ∀ op ∈ ops, op.Masked := by
  rw [replaceBody_eq] at h
  refine masked_editsAt (fun b built begun h => ?_) h
  obtain ⟨cleared, deleted, placed⟩ := exists_of_bind h
  have emptied : cleared.Masked := by
    split at deleted
    · exact begun.deleteRange deleted
    · cases deleted
      exact begun
  unfold placeBody at placed
  dsimp only at placed
  split at placed
  · exact (emptied.insertText _).nameParagraphs placed
  · cases placed
    exact emptied.insertText _

theorem masked_sectionEdits {s : Snapshot} {heading content : String} {ops : List Operation}
    (h : sectionEdits s heading content = .ok ops) : ∀ op ∈ ops, op.Masked := by
  unfold sectionEdits at h
  split at h
  · cases h
  · next found next _ =>
    cases replaced : replaceBody s.endIndex found next content with
    | error r =>
      rw [replaced] at h
      cases h
    | ok edits =>
      rw [replaced] at h
      cases h
      exact masked_replaceBody replaced

theorem lists_readFormat {alignment : String} {format : ParagraphFormat}
    {fields : List (String × Json)} (h : readFormat alignment format = .ok fields) :
    Lists (maskOf fields) fields := by
  unfold readFormat at h
  cases ha : explain (TextAlignment.read alignment) with
  | error f =>
    rw [ha] at h
    cases h
  | ok read =>
    rw [ha] at h
    dsimp only [bind, Except.bind] at h
    split at h
    · cases h
    · next filled =>
      cases h
      exact ParagraphFormat.lists_mask (by simpa using filled)

end Docwright.Writer
