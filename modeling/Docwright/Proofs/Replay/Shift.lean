import Docwright.Proofs.Edit.Steps

/-!
Batches that start somewhere else. The edits of passages know where they are only from the cursor:
from a later one on, they are the same edits, shifted (`batch_shifted`).
-/

namespace Docwright.Edit

def Span.shifted (n : Int) (s : Span) : Span :=
  ⟨s.start + n, s.stop + n, Int.add_le_add_right s.ordered n⟩

/-- The same edit `n` positions later. A replacement has no position. -/
def Operation.shifted (n : Int) : Operation → Operation
  | .insertText index text => .insertText (index + n) text
  | .nameParagraphs span style => .nameParagraphs (span.shifted n) style
  | .styleText span style fields => .styleText (span.shifted n) style fields
  | .createList span preset => .createList (span.shifted n) preset
  | .insertTable index rows columns => .insertTable (index + n) rows columns
  | .insertPageBreak index => .insertPageBreak (index + n)
  | .delete span => .delete (span.shifted n)
  | .formatParagraphs span style fields => .formatParagraphs (span.shifted n) style fields
  | .replaceAll find replacement matchCase => .replaceAll find replacement matchCase

end Docwright.Edit

namespace Docwright.Replay

open Edit

theorem shifted_over (n : Int) (s : Span) (f : Format) :
    (f.over s).shifted n = f.over (s.shifted n) := by
  cases f <;> rfl

theorem advance_over (s : Span) (f : Format) : (f.over s).advance = 0 := by
  cases f <;> rfl

theorem Ranged.span_shifted (c n : Int) (r : Ranged) : r.span (c + n) = (r.span c).shifted n := by
  simp only [Ranged.span, Span.shifted, Span.mk.injEq]
  omega

theorem Ranged.edit_shifted (c n : Int) (r : Ranged) : r.edit (c + n) = (r.edit c).shifted n := by
  rw [Ranged.edit, Ranged.edit, shifted_over, r.span_shifted]

theorem Passage.edits_shifted (c n : Int) (p : Passage) :
    p.edits (c + n) = (p.edits c).map (Operation.shifted n) := by
  cases p with
  | text content ranges =>
    have ranged : ranges.map (Ranged.edit (c + n)) =
        (ranges.map (Ranged.edit c)).map (Operation.shifted n) := by
      rw [List.map_map]
      exact List.map_congr_left fun r _ => r.edit_shifted c n
    simp only [edits, List.map_append, ranged]
    split <;> rfl
  | pageBreak | table => rfl

theorem batch_shifted (c n : Int) (ps : List Passage) :
    batch (c + n) ps = (batch c ps).map (Operation.shifted n) := by
  induction ps generalizing c with
  | nil => rfl
  | cons p ps ih =>
    have next : c + n + p.width = c + p.width + n := by omega
    rw [batch, next, ih, p.edits_shifted, batch, List.map_append]

theorem advance_ranges (c : Int) (ranges : List Ranged) :
    advance (ranges.map (Ranged.edit c)) = 0 := by
  induction ranges with
  | nil => rfl
  | cons r rs ih => rw [List.map_cons, advance, ih, Ranged.edit, advance_over]

theorem Passage.advance_edits (c : Int) (p : Passage) : advance (p.edits c) = p.width := by
  cases p with
  | text content ranges =>
    rw [edits, advance_append, advance_ranges]
    by_cases empty : content = ""
    · subst empty
      rfl
    · simp [empty, advance, Operation.advance, width]
  | pageBreak | table => rfl

theorem advance_batch (c : Int) (ps : List Passage) : advance (batch c ps) = totalWidth ps := by
  induction ps generalizing c with
  | nil => rfl
  | cons p ps ih => rw [batch, advance_append, p.advance_edits, ih, totalWidth]

theorem totalWidth_texts {ps : List Passage} (h : ∀ p ∈ ps, p.IsText) :
    totalWidth ps = Text.width (String.join (ps.map Passage.content)) := by
  induction ps with
  | nil => rfl
  | cons p ps ih =>
    have tail := ih fun q hq => h q (List.mem_cons_of_mem _ hq)
    cases p with
    | pageBreak | table => exact absurd (h _ List.mem_cons_self) id
    | text content ranges =>
      rw [List.map_cons, String.join_cons, Text.width_append, totalWidth, tail]
      rfl

/-- Passages behind others give the edits that they give alone, shifted to behind those. -/
theorem batch_append_shifted (c : Int) (ps qs : List Passage) :
    batch c (ps ++ qs) =
      batch c ps ++ (batch 1 qs).map (Operation.shifted (c - 1 + totalWidth ps)) := by
  have from_one : c + totalWidth ps = 1 + (c - 1 + totalWidth ps) := by omega
  rw [batch_append, from_one, batch_shifted]

end Docwright.Replay
