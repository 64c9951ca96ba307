import Docwright.Proofs.Replay.Order
import Docwright.Proofs.Style.Mask

/-!
What a batch sets on the texts that it inserts. Its texts lie apart from each other, so that a range
edit is about one of them only, and sets what the passage of that text asks for (`styled_batch`).
-/

namespace Docwright.Replay

open Edit Style

/-- The attributes that a format sets. A mask decides about the fields that stand beside it. -/
def Format.sets : Format → List (String × Json)
  | .named style => [("namedStyleType", .str style)]
  | .characters style mask => masked style.fields mask
  | .list preset => [("bulletPreset", .str preset)]
  | .lines fields mask => masked fields mask

def RangeEdit.Covers (e : RangeEdit) (start stop : Int) : Prop :=
  e.span.start = start ∧ e.span.stop = stop

instance (e : RangeEdit) (start stop : Int) : Decidable (e.Covers start stop) :=
  inferInstanceAs (Decidable (_ ∧ _))

/-- Some position lies in the span of the edit and in the range. -/
def RangeEdit.Touches (e : RangeEdit) (start stop : Int) : Prop :=
  e.span.start < stop ∧ start < e.span.stop

/-- What the edits set on exactly this range. -/
def setOver (start stop : Int) (edits : List RangeEdit) : List (String × Json) :=
  (edits.filter fun e => e.Covers start stop).flatMap fun e => e.format.sets

/-- The edits set these attributes on the range, and none of them reaches into it otherwise. -/
structure Styled (edits : List RangeEdit) (start stop : Int) (attributes : List (String × Json)) :
    Prop where
  sets : setOver start stop edits = attributes
  covers : ∀ e ∈ edits, e.Touches start stop → e.Covers start stop

/-- The attributes that the ranges of a passage ask for. -/
def Passage.sets : Passage → List (String × Json)
  | .text _ ranges => ranges.flatMap fun r => r.format.sets
  | _ => []

theorem setOver_append (start stop : Int) (xs ys : List RangeEdit) :
    setOver start stop (xs ++ ys) = setOver start stop xs ++ setOver start stop ys := by
  simp only [setOver, List.filter_append, List.flatMap_append]

section

variable {edits : List RangeEdit} {start stop : Int} {attributes : List (String × Json)}

theorem setOver_eq_nil (range : start < stop) (h : ∀ e ∈ edits, ¬e.Touches start stop) :
    setOver start stop edits = [] := by
  have none : edits.filter (fun e => e.Covers start stop) = [] := by
    rw [List.filter_eq_nil_iff]
    intro e he covers
    obtain ⟨same, same'⟩ := of_decide_eq_true covers
    exact h e he ⟨by omega, by omega⟩
  rw [setOver, none]
  rfl

/-- Edits that do not reach into the range may come before and after. -/
theorem Styled.between (h : Styled edits start stop attributes) (range : start < stop)
    {before after : List RangeEdit} (left : ∀ e ∈ before, ¬e.Touches start stop)
    (right : ∀ e ∈ after, ¬e.Touches start stop) :
    Styled (before ++ edits ++ after) start stop attributes where
  sets := by
    rw [setOver_append, setOver_append, setOver_eq_nil range left, setOver_eq_nil range right,
      List.nil_append, List.append_nil, h.sets]
  covers := by
    intro e he touches
    rcases List.mem_append.mp he with he | he
    · rcases List.mem_append.mp he with he | he
      · exact absurd touches (left e he)
      · exact h.covers e he touches
    · exact absurd touches (right e he)

end

theorem covers_of_mem_ranges {n : Nat} {c : Int} {content : String} {ranges : List Ranged}
    (whole : ∀ r ∈ ranges, IsWhole content r) :
    ∀ e ∈ rangeEdits n (ranges.map (Ranged.edit c)), e.Covers c (c + Text.width content) := by
  induction ranges generalizing n with
  | nil => exact List.forall_mem_nil _
  | cons r rs ih =>
    obtain ⟨format, rfl⟩ := whole r List.mem_cons_self
    rw [List.map_cons, Ranged.edit, rangeEdits, rangeOf_over]
    refine List.forall_mem_cons.mpr ⟨?_, ih fun r hr => whole r (List.mem_cons_of_mem _ hr)⟩
    constructor
    · exact Int.add_zero c
    · simp only [Ranged.whole, Ranged.span]
      omega

theorem map_format_ranges (n : Nat) (c : Int) (ranges : List Ranged) :
    (rangeEdits n (ranges.map (Ranged.edit c))).map (·.format) = ranges.map (·.format) := by
  induction ranges generalizing n with
  | nil => rfl
  | cons r rs ih =>
    rw [List.map_cons, Ranged.edit, rangeEdits, rangeOf_over]
    exact congrArg (r.format :: ·) (ih (n + 1))

theorem styled_ranges (n : Nat) (c : Int) {content : String} {ranges : List Ranged}
    (whole : ∀ r ∈ ranges, IsWhole content r) :
    Styled (rangeEdits n (ranges.map (Ranged.edit c))) c (c + Text.width content)
      (ranges.flatMap fun r => r.format.sets) where
  sets := by
    have all : (rangeEdits n (ranges.map (Ranged.edit c))).filter
        (fun e => e.Covers c (c + Text.width content)) =
          rangeEdits n (ranges.map (Ranged.edit c)) := by
      rw [List.filter_eq_self]
      exact fun e he => decide_eq_true (covers_of_mem_ranges whole e he)
    rw [setOver, all, ← List.flatMap_map (f := RangeEdit.format) (g := Format.sets),
      map_format_ranges, List.flatMap_map]
  covers := fun e he _ => covers_of_mem_ranges whole e he

/-- Nothing is set behind the end of a passage, or in front of it. -/
theorem Passage.bounds_of_mem {p : Passage} (whole : p.Whole) {n : Nat} {c : Int} :
    ∀ e ∈ rangeEdits n (p.edits c), c ≤ e.span.start ∧ e.span.stop ≤ c + p.width := by
  cases p with
  | pageBreak | table => exact List.forall_mem_nil _
  | text content ranges =>
    rw [rangeEdits_passage]
    intro e he
    obtain ⟨start, stop⟩ := covers_of_mem_ranges whole.2 e he
    exact ⟨by omega, by simp only [width]; omega⟩

theorem start_of_mem_batch {ps : List Passage} (whole : ∀ p ∈ ps, p.Whole) {n : Nat} {c : Int} :
    ∀ e ∈ rangeEdits n (batch c ps), c ≤ e.span.start := by
  induction ps generalizing n c with
  | nil => exact List.forall_mem_nil _
  | cons p ps ih =>
    intro e he
    rw [batch, rangeEdits_append] at he
    rcases List.mem_append.mp he with he | he
    · exact (Passage.bounds_of_mem (whole p List.mem_cons_self) e he).1
    · have later := ih (fun q hq => whole q (List.mem_cons_of_mem _ hq)) e he
      omega

/-- If the insertion brings a text, then behind `c`, and with the attributes of the passage. -/
def StyledFrom (c : Int) (edits : List RangeEdit) (p : Passage) (i : Insertion) : Prop :=
  ∀ index content, i.edit = .insertText index content →
    c ≤ index ∧ content ≠ "" ∧ Styled edits index (index + Text.width content) p.sets

theorem styled_batch (n : Nat) (c : Int) {ps : List Passage} (whole : ∀ p ∈ ps, p.Whole) :
    List.Forall₂ (StyledFrom c (rangeEdits n (batch c ps))) ps (insertions n (batch c ps)) := by
  induction ps generalizing n c with
  | nil => exact .nil
  | cons p ps ih =>
    have head := whole p List.mem_cons_self
    have rest : ∀ q ∈ ps, q.Whole := fun q hq => whole q (List.mem_cons_of_mem _ hq)
    have tail := ih (n + p.count) (c + p.width) rest
    obtain ⟨op, insertion, inserts, first⟩ := p.exists_insertion head n c
    rw [batch, insertions_append, rangeEdits_append, insertion, p.length_edits]
    refine .cons ?_ (tail.imp ?_)
    · rintro index content rfl
      cases inserts with
      | text _ _ ranges =>
        have filled : content ≠ "" := head.1
        have range := Text.width_pos filled
        obtain rfl : c = index := by simpa [Passage.edits, filled] using first
        refine ⟨Int.le_refl c, filled, ?_⟩
        rw [rangeEdits_passage]
        have styled := styled_ranges (n + if content = "" then 0 else 1) c head.2
        refine styled.between (by omega) (List.forall_mem_nil _) ?_
        rintro e he ⟨reaches, _⟩
        have behind := start_of_mem_batch rest e he
        simp only [Passage.width] at behind
        omega
    · intro q i styled index content edit
      obtain ⟨behind, filled, styled⟩ := styled index content edit
      have range := Text.width_pos filled
      refine ⟨by omega, filled, ?_⟩
      have left : ∀ e ∈ rangeEdits n (p.edits c), ¬e.Touches index (index + Text.width content) := by
        rintro e he ⟨_, reaches⟩
        have bounds := (Passage.bounds_of_mem head e he).2
        omega
      have between := styled.between (by omega) left (List.forall_mem_nil _)
      rwa [List.append_nil] at between

end Docwright.Replay
