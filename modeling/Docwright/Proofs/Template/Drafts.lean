import Docwright.Proofs.Failure.Encodable
import Docwright.Proofs.Template.Reordering
import Docwright.Template.Draft

namespace Docwright.Replay

open Edit

/-- Of a batch of passages, the texts that are inserted are their contents. -/
theorem exists_insertedTexts_batch {P : String → Prop} (filled : ¬P "") (c : Int)
    (ps : List Passage) :
    (∃ text ∈ insertedTexts (batch c ps), P text) ↔ ∃ p ∈ ps, P p.content := by
  have own (p : Passage) (c : Int) : (∃ text ∈ insertedTexts (p.edits c), P text) ↔ P p.content := by
    cases p with
    | text content ranges =>
      rw [Passage.edits, insertedTexts_append, insertedTexts_ranges, List.append_nil]
      by_cases empty : content = ""
      · subst empty
        simp [insertedTexts, Passage.content, filled]
      · simp [insertedTexts, Passage.content, empty]
    | pageBreak | table => simp [insertedTexts, Passage.edits, Passage.content, filled]
  induction ps generalizing c with
  | nil => simp [batch, insertedTexts]
  | cons p ps ih =>
    simp only [batch, insertedTexts_append, List.mem_append, or_and_right, exists_or, own, ih,
      List.mem_cons, exists_eq_left]

end Docwright.Replay

namespace Docwright.Template

open Edit Replay

theorem Draft.ofJson_eq {v : Json} {t : Template} (h : Template.ofJson v = .ok t) :
    Draft.ofJson v = .ok ⟨t, false⟩ := by
  simp only [Draft.ofJson, h]

theorem Checked.toExcept_eq_ok {α : Type} {c : Checked α} {a : α} (h : c.toExcept = .ok a) :
    c = .ok a := by
  cases c <;> cases h
  rfl

theorem Draft.exists_readTemplate {v : Json} {d : Draft} (h : Draft.ofJson v = .ok d) :
    ∃ value, readTemplate value = .ok d.template := by
  unfold Draft.ofJson at h
  split at h
  · next t plain =>
    cases h
    exact Template.exists_readTemplate plain
  · next value _ =>
    split at h
    · next t read =>
      cases h
      exact ⟨value, Checked.toExcept_eq_ok read⟩
    · cases h
  · cases h

theorem Draft.proper {v : Json} {d : Draft} (h : Draft.ofJson v = .ok d) : Proper d.template := by
  obtain ⟨value, read⟩ := Draft.exists_readTemplate h
  exact proper_readTemplate read

def Element.texts : Element → List String
  | .text content _ => [content]
  | .list _ items _ => items
  | .table .. | .pageBreak | .rule => []

/-- The texts of a piece that are inserted with it. Those of a table are not. -/
def Piece.texts : Piece → List String
  | .title t => [t.text]
  | .heading s => [s.heading]
  | .element e => e.texts

theorem not_unpaired_empty : ¬(Text.unpaired? "").isSome = true := by
  decide

theorem Element.unpaired_content (e : Element) :
    (Text.unpaired? e.passage.content).isSome = true ↔
      ∃ text ∈ e.texts, (Text.unpaired? text).isSome = true := by
  have lineEnd : ¬(Text.unpaired? "\n").isSome = true := by decide
  cases e with
  | text content f =>
    simp [Element.passage, textPassage, Passage.content, Element.texts,
      Text.isSome_unpaired?_append, lineEnd]
  | list kind items indent =>
    simp [Element.passage, listPassage, Passage.content, Element.texts,
      Text.isSome_unpaired?_join, Text.isSome_unpaired?_append, lineEnd]
  | table | pageBreak => simp [Element.passage, Passage.content, Element.texts, not_unpaired_empty]
  | rule =>
    have plain : ¬(Text.unpaired? Builder.ruleText).isSome = true := by decide
    simp [Element.passage, Passage.content, Element.texts, plain]

theorem Piece.unpaired_content (p : Piece) :
    (Text.unpaired? p.passage.content).isSome = true ↔
      ∃ text ∈ p.texts, (Text.unpaired? text).isSome = true := by
  have lineEnd : ¬(Text.unpaired? "\n").isSome = true := by decide
  have lineEnds : ¬(Text.unpaired? "\n\n").isSome = true := by decide
  cases p with
  | title t =>
    simp [Piece.passage, Title.passage, Passage.content, Piece.texts,
      Text.isSome_unpaired?_append, lineEnds]
  | heading s =>
    simp [Piece.passage, headingPassage, Passage.content, Piece.texts,
      Text.isSome_unpaired?_append, lineEnd]
  | element e => exact e.unpaired_content

/-- The template has a text with an unpaired surrogate in it, and the text is inserted. -/
def InsertsUnpaired (t : Template) : Prop :=
  ∃ p ∈ pieces t, ∃ text ∈ p.texts, (Text.unpaired? text).isSome = true

instance (t : Template) : Decidable (InsertsUnpaired t) :=
  inferInstanceAs (Decidable (∃ p ∈ pieces t, ∃ text ∈ p.texts, _))

theorem insertsUnpaired_iff (t : Template) (start : Int) :
    InsertsUnpaired t ↔
      ∃ text ∈ insertedTexts (batch start (passages t)), (Text.unpaired? text).isSome = true := by
  rw [exists_insertedTexts_batch not_unpaired_empty, passages_eq_map]
  simp only [InsertsUnpaired, ← Piece.unpaired_content, List.mem_map, exists_exists_and_eq_and]

theorem overtakings_ranges (c : Int) (ranges : List Ranged) (rest : List Operation) :
    overtakings false (ranges.map (Ranged.edit c) ++ rest) = overtakings false rest := by
  induction ranges with
  | nil => rfl
  | cons r ranges ih =>
    rw [List.map_cons, List.cons_append, ← ih]
    cases h : r.format <;> simp [Ranged.edit, h, Format.over, overtakings]

/-- Only what is inserted by the first of its edits matters of a passage. -/
theorem overtakings_edits {p : Passage} (whole : p.Whole) (after : Bool) (c : Int)
    (rest : List Operation) : overtakings after (p.edits c ++ rest) =
      match p with
      | .table .. => overtakings true rest
      | _ => overtakings false rest + after.toNat := by
  cases p with
  | text content ranges =>
    have plain := overtakings_ranges c ranges rest
    simp [Passage.edits, whole.1, overtakings, plain]
  | pageBreak | table => rfl

theorem overtakings_batch {ps : List Piece} (whole : ∀ p ∈ ps, p.passage.Whole) (after : Bool)
    (c : Int) : remarks after (ps.map Piece.isTable) =
      List.replicate (overtakings after (batch c (ps.map Piece.passage))) reorderWarning := by
  induction ps generalizing after c with
  | nil => cases after <;> rfl
  | cons p ps ih =>
    obtain ⟨first, others⟩ := List.forall_mem_cons.mp whole
    have later := fun after => ih others after (c + p.passage.width)
    have other : remarks after (false :: ps.map Piece.isTable) = List.replicate
        (overtakings false (batch (c + p.passage.width) (ps.map Piece.passage)) + after.toNat)
        reorderWarning := by
      cases after <;> simp [remarks, later, List.replicate_succ]
    rw [List.map_cons, List.map_cons, batch, overtakings_edits first]
    cases p with
    | title | heading => exact other
    | element e =>
      cases e with
      | table =>
        rw [Piece.isTable, remarks]
        exact later true
      | text | list | pageBreak | rule => exact other

/-- The warnings of a template are those of its operations. -/
theorem compile_warnings_eq {t : Template} (h : Proper t) {start : Int} (first : 1 ≤ start)
    {c : Compiled} (compiled : t.compile start = .ok c) :
    c.warnings = List.replicate (overtakings false c.operations) reorderWarning := by
  obtain ⟨warnings, same⟩ := compile_eq_batch h first
  have whole : ∀ p ∈ pieces t, p.passage.Whole := by
    have all := whole_passages h
    rw [passages_eq_map] at all
    exact fun p hp => all _ (List.mem_map_of_mem hp)
  rw [compile_warnings compiled, overtakings_batch whole false start, ← passages_eq_map]
  cases compiled.symm.trans same
  rfl

theorem Draft.compile_eq {d : Draft} {start : Int} {c : Compiled}
    (h : d.template.compile start = .ok c) :
    d.compile start = (checkEncodable d.marked c.texts).map fun _ => c := by
  unfold Draft.compile
  rw [h]
  dsimp only [Except.mapError, bind, Except.bind]
  cases checkEncodable d.marked c.texts <;> rfl

/-- A draft is measured without failures, unless it is marked and inserts an unpaired surrogate. -/
theorem checkEncodable_draft {d : Draft} {start : Int} {c : Compiled}
    (h : c.operations = batch start (passages d.template)) :
    checkEncodable d.marked c.texts = .ok () ↔ ¬(d.marked = true ∧ InsertsUnpaired d.template) := by
  have texts : c.texts = insertedTexts (batch start (passages d.template)) :=
    congrArg insertedTexts h
  rw [checkEncodable_eq_ok_iff, insertsUnpaired_iff _ start, texts]

end Docwright.Template
