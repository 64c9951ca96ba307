import Docwright.Proofs.Replay.Order
import Docwright.Proofs.Template.Batch

/-!
The pieces of a template, in the order in which it lists them. The batch of an accepted template
makes one insertion for each piece, in that order (`forall₂_writes`).
-/

namespace Docwright.Template

open Edit Replay

inductive Piece where
  | title (t : Title)
  | heading (s : Section)
  | element (e : Element)

def Piece.passage : Piece → Passage
  | .title t => t.passage
  | .heading s => headingPassage s
  | .element e => e.passage

def Piece.isTable : Piece → Bool
  | .element (.table ..) => true
  | _ => false

/-- The format that the template gives a piece. -/
def Piece.format? : Piece → Option TextFormat
  | .title t => some t.format
  | .element (.text _ f) => some f
  | _ => none

/-- The insertion brings the piece to the document. -/
def Piece.Writes (p : Piece) (i : Insertion) : Prop :=
  p.passage.Inserts i.edit

def Section.pieces (s : Section) : List Piece :=
  .heading s :: s.content.map .element

def pieces (t : Template) : List Piece :=
  (t.title.map .title).toList ++ t.sections.flatMap Section.pieces ++ t.elements.map .element

theorem Section.passages_eq_map (s : Section) : s.passages = s.pieces.map Piece.passage := by
  simp only [Section.passages, Section.pieces, List.map_cons, List.map_map]
  rfl

theorem passages_eq_map (t : Template) : passages t = (pieces t).map Piece.passage := by
  have title : (t.title.map Title.passage).toList =
      (t.title.map Piece.title).toList.map Piece.passage := by
    cases t.title <;> rfl
  have sections : t.sections.flatMap Section.passages =
      (t.sections.flatMap Section.pieces).map Piece.passage := by
    rw [List.map_flatMap]
    congr 1
    exact funext Section.passages_eq_map
  have elements : t.elements.map Element.passage =
      (t.elements.map Piece.element).map Piece.passage := by
    rw [List.map_map]
    rfl
  simp only [passages, pieces, List.map_append, title, sections, elements]

theorem forall₂_writes {t : Template} (h : Proper t) (start : Int) :
    List.Forall₂ Piece.Writes (pieces t) (insertions 0 (batch start (passages t))) := by
  have inserts := forall₂_inserts 0 start (whole_passages h)
  rw [passages_eq_map] at inserts ⊢
  have pairs := List.forall₂_map_left_iff.mp inserts
  exact pairs

theorem Piece.isTable_eq {p : Piece} {i : Insertion} (h : p.Writes i) : i.isTable = p.isTable := by
  obtain ⟨number, edit⟩ := i
  cases p with
  | title | heading => cases h; rfl
  | element e => cases e <;> (cases h; rfl)

/-- Tables are inserted where the template lists tables. -/
theorem map_isTable {ps : List Piece} {is : List Insertion} (h : List.Forall₂ Piece.Writes ps is) :
    is.map Insertion.isTable = ps.map Piece.isTable := by
  induction h with
  | nil => rfl
  | cons writes _ ih => rw [List.map_cons, List.map_cons, Piece.isTable_eq writes, ih]

end Docwright.Template
