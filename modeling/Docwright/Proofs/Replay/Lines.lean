import Docwright.Proofs.Replay.Body

/-!
Paragraphs of a document: what stands in front of each line end. There are as many of them as there
are line ends (`length_paragraphs`). Texts that are written one to a line make up more paragraphs
than there are texts if there is a line end in one of them (`length_paragraphs_onLines`), and the
texts themselves otherwise (`paragraphs_onLines_iff`).
-/

namespace Docwright.Replay

open Text

def Content.isLineEnd : Content → Bool
  | .unit code => code == 10
  | .pageBreak | .table .. | .inTable => false

/-- The paragraphs of a part of a document; what has no line end belongs to none. -/
def paragraphs : List Content → List (List Content)
  | [] => []
  | c :: cs =>
    if c.isLineEnd then [] :: paragraphs cs
    else match paragraphs cs with
      | [] => []
      | p :: ps => (c :: p) :: ps

/-- Texts, each with a line end behind it. -/
def onLines (texts : List String) : String :=
  String.join (texts.map (· ++ "\n"))

def lineEnds (text : String) : Nat :=
  text.toList.count '\n'

theorem length_paragraphs (cs : List Content) : (paragraphs cs).length = cs.countP Content.isLineEnd := by
  induction cs with
  | nil => rfl
  | cons c cs ih =>
    by_cases ends : c.isLineEnd = true
    · rw [paragraphs, if_pos ends, List.length_cons, ih, List.countP_cons_of_pos ends]
    · rw [paragraphs, if_neg ends, List.countP_cons_of_neg ends, ← ih]
      cases paragraphs cs <;> rfl

/-- The line end that closes a paragraph is the first one. -/
theorem paragraphs_append {line : List Content} (plain : ∀ c ∈ line, c.isLineEnd = false)
    (rest : List Content) : paragraphs (line ++ lineEnd :: rest) = line :: paragraphs rest := by
  induction line with
  | nil => rfl
  | cons c cs ih =>
    have first := plain c List.mem_cons_self
    have tail := ih fun d hd => plain d (List.mem_cons_of_mem _ hd)
    simp only [List.cons_append, paragraphs, first, tail, Bool.false_eq_true, ↓reduceIte]

theorem isLineEnd_unit {n : Nat} (small : n < 0x10000) :
    (Content.unit n.toUInt16).isLineEnd = decide (n = 10) := by
  rw [Bool.eq_iff_iff, decide_eq_true_iff, Content.isLineEnd, beq_iff_eq, ← UInt16.toNat_inj]
  simp only [Nat.toUInt16_eq, UInt16.toNat_ofNat', UInt16.toNat_ofNat]
  omega

/-- Neither unit of a pair is a line end. -/
theorem countP_charUnits (c : Char) :
    ((charUnits c).map Content.unit).countP Content.isLineEnd = [c].count '\n' := by
  have same : c.toNat = 10 ↔ c = '\n' := by
    constructor
    · intro code
      exact Char.ext (UInt32.toNat_inj.mp code)
    · rintro rfl
      rfl
  unfold charUnits
  split
  · next small =>
    rw [List.map_singleton, List.countP_singleton, isLineEnd_unit small, List.count_singleton]
    by_cases ends : c = '\n'
    · rw [ends]
      rfl
    · simp [mt same.mp ends, ends]
  · next wide =>
    have valid : c.toNat < 0xD800 ∨ 0xDFFF < c.toNat ∧ c.toNat < 0x110000 := c.valid
    have other : ¬c.toNat = 10 := by omega
    have leading := isLineEnd_unit (show 0xD800 + (c.toNat - 0x10000) / 0x400 < 0x10000 by omega)
    have trailing := isLineEnd_unit (show 0xDC00 + (c.toNat - 0x10000) % 0x400 < 0x10000 by omega)
    rw [decide_eq_false (by omega)] at leading trailing
    rw [List.map_cons, List.map_singleton, List.countP_cons_of_neg (Bool.eq_false_iff.mp leading),
      List.countP_singleton, trailing, List.count_singleton, beq_false_of_ne (mt same.mpr other)]

theorem countP_textContents (s : String) : (textContents s).countP Content.isLineEnd = lineEnds s := by
  rw [textContents, units, lineEnds]
  induction s.toList with
  | nil => rfl
  | cons c cs ih =>
    rw [List.flatMap_cons, List.map_append, List.countP_append, countP_charUnits, ih,
      ← List.count_append, List.singleton_append]

theorem textContents_onLines (texts : List String) :
    textContents (onLines texts) = texts.flatMap fun t => textContents t ++ [lineEnd] := by
  induction texts with
  | nil => rfl
  | cons t ts ih =>
    have newline : textContents "\n" = [lineEnd] := rfl
    rw [onLines, List.map_cons, String.join_cons, textContents_append, textContents_append, newline,
      List.flatMap_cons]
    exact congrArg _ ih

theorem lineEnds_join_cons (text : String) (texts : List String) :
    lineEnds (String.join (text :: texts)) = lineEnds text + lineEnds (String.join texts) := by
  rw [String.join_cons, lineEnds, String.toList_append, List.count_append]
  rfl

/-- One paragraph for each text, and one for each line end inside of one. -/
theorem length_paragraphs_onLines (texts : List String) :
    (paragraphs (textContents (onLines texts))).length =
      texts.length + lineEnds (String.join texts) := by
  rw [length_paragraphs, textContents_onLines]
  induction texts with
  | nil => rfl
  | cons t ts ih =>
    have own : (textContents t ++ [lineEnd]).countP Content.isLineEnd = lineEnds t + 1 := by
      rw [List.countP_append, countP_textContents]
      rfl
    rw [List.flatMap_cons, List.countP_append, own, ih, List.length_cons, lineEnds_join_cons]
    omega

theorem lineEnds_eq_zero_iff (text : String) : lineEnds text = 0 ↔ '\n' ∉ text.toList :=
  List.count_eq_zero

theorem length_paragraphs_onLines_iff (texts : List String) :
    (paragraphs (textContents (onLines texts))).length = texts.length ↔
      ∀ t ∈ texts, '\n' ∉ t.toList := by
  rw [length_paragraphs_onLines, Nat.add_eq_left]
  induction texts with
  | nil =>
    refine iff_of_true rfl ?_
    exact List.forall_mem_nil _
  | cons t ts ih =>
    rw [lineEnds_join_cons, Nat.add_eq_zero_iff, ih, lineEnds_eq_zero_iff, List.forall_mem_cons]

theorem paragraphs_onLines_iff (texts : List String) :
    paragraphs (textContents (onLines texts)) = texts.map textContents ↔
      ∀ t ∈ texts, '\n' ∉ t.toList := by
  constructor
  · intro same
    rw [← length_paragraphs_onLines_iff, same, List.length_map]
  · intro plain
    rw [textContents_onLines]
    induction texts with
    | nil => rfl
    | cons t ts ih =>
      have own : ∀ c ∈ textContents t, c.isLineEnd = false := by
        have none := (lineEnds_eq_zero_iff t).mpr (plain t List.mem_cons_self)
        rw [← countP_textContents, List.countP_eq_zero] at none
        simpa using none
      rw [List.flatMap_cons, List.append_assoc, List.singleton_append, paragraphs_append own,
        ih fun u hu => plain u (List.mem_cons_of_mem _ hu), List.map_cons]

end Docwright.Replay
