import Docwright.Proofs.Replay.Passage

namespace Docwright.Replay

open Edit Style

variable (b : Builder) (text : String) (ranges : List Ranged)

/-- A range over all of a text. -/
def Ranged.whole (text : String) (format : Format) : Ranged :=
  ⟨0, Text.width text, format⟩

theorem Ranged.whole_fits {text : String} (h : text ≠ "") (format : Format) :
    0 < (Ranged.whole text format).width ∧
      (Ranged.whole text format).start + (Ranged.whole text format).width ≤ Text.width text := by
  have := Text.width_pos h
  simp only [Ranged.whole]
  omega

def IsWhole (text : String) (r : Ranged) : Prop :=
  ∃ format, r = .whole text format

/-- All ranges of a passage are over the whole of its text. -/
def Passage.Whole : Passage → Prop
  | .text content ranges => content ≠ "" ∧ ∀ r ∈ ranges, IsWhole content r
  | _ => True

theorem Passage.Whole.fits {p : Passage} (h : p.Whole) : p.Fits := by
  cases p with
  | text content ranges =>
    intro r hr
    obtain ⟨format, rfl⟩ := h.2 r hr
    exact Ranged.whole_fits h.1 format
  | pageBreak | table => trivial

theorem bind_of_ok {α β : Type} {x : Except Refusal α} {a : α} (h : x = .ok a)
    (f : α → Except Refusal β) : x >>= f = f a := by
  rw [h]; rfl

theorem exists_of_bind {α β : Type} {x : Except Refusal α} {f : α → Except Refusal β} {b : β}
    (h : x >>= f = .ok b) : ∃ a, x = .ok a ∧ f a = .ok b := by
  cases x with
  | error r => cases h
  | ok a => exact ⟨a, rfl, h⟩

theorem insertText_eq_extend : b.insertText text = extend b [.text text []] := by
  by_cases h : text = ""
  · subst h
    simp [Builder.insertText, extend, totalWidth, batch, Passage.width, Passage.edits]
  · simp [Builder.insertText, extend, totalWidth, batch, Passage.width, Passage.edits, h]

theorem cursor_insertText : (b.insertText text).cursor = b.cursor + Text.width text := by
  simp [insertText_eq_extend, extend, totalWidth, Passage.width]

theorem push_extend (r : Ranged) : (extend b [.text text ranges]).push (r.edit b.cursor) =
    extend b [.text text (ranges ++ [r])] := by
  simp [extend, Builder.push, totalWidth, batch, Passage.width, Passage.edits]

/-- A range that is set in the text that was written last. -/
theorem map_push_extend (r : Ranged) (op : Span → Operation)
    (edit : op (r.span b.cursor) = r.edit b.cursor) {start stop : Int}
    (hs : start = b.cursor + r.start) (ht : stop = b.cursor + r.start + r.width) :
    (Span.of start stop).map (fun span => (extend b [.text text ranges]).push (op span)) =
      .ok (extend b [.text text (ranges ++ [r])]) := by
  have span : Span.of start stop = .ok (r.span b.cursor) := by
    subst hs ht
    exact dif_pos (by omega)
  rw [span, ← push_extend, ← edit]
  rfl

theorem nameParagraphs_extend (style : String) :
    (extend b [.text text ranges]).nameParagraphs b.cursor (b.insertText text).cursor style =
      .ok (extend b [.text text (ranges ++ [.whole text (.named style)])]) :=
  map_push_extend b text ranges _ _ rfl (by simp [Ranged.whole])
    (by simp [Ranged.whole, cursor_insertText])

theorem createList_extend (preset : String) :
    (extend b [.text text ranges]).createList b.cursor (b.insertText text).cursor preset =
      .ok (extend b [.text text (ranges ++ [.whole text (.list preset)])]) :=
  map_push_extend b text ranges _ _ rfl (by simp [Ranged.whole])
    (by simp [Ranged.whole, cursor_insertText])

theorem formatParagraphs_extend (style : List (String × Json)) (fields : String) :
    (extend b [.text text ranges]).formatParagraphs b.cursor (b.insertText text).cursor style fields =
      .ok (extend b [.text text (ranges ++ [.whole text (.lines style fields)])]) :=
  map_push_extend b text ranges _ _ rfl (by simp [Ranged.whole])
    (by simp [Ranged.whole, cursor_insertText])

theorem styleText_extend (start width : Nat) (style : TextStyle) {first stop : Int}
    (hs : first = b.cursor + start) (ht : stop = b.cursor + start + width) :
    (extend b [.text text ranges]).styleText first stop style =
      .ok (extend b [.text text (ranges ++ [⟨start, width, .characters style style.mask⟩])]) :=
  map_push_extend b text ranges ⟨start, width, .characters style style.mask⟩ _ rfl hs ht

theorem insertPageBreak_eq_extend : b.insertPageBreak = extend b [.pageBreak] := rfl

theorem insertTable_eq_extend {rows columns : Int} (hr : 1 ≤ rows) (hc : 1 ≤ columns) :
    b.insertTable rows columns = .ok (extend b [.table rows columns]) := by
  have size : ¬(rows < 1 ∨ columns < 1) := by omega
  simp [Builder.insertTable, size, extend, Builder.push, totalWidth, batch, Passage.width, Passage.edits]

end Docwright.Replay
