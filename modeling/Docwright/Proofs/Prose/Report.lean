import Docwright.Proofs.Prose.Basic

/-!
Snapshots of documents of paragraphs. A snapshot tells of every paragraph where it stands
(`Shows`); its sections are then the headings of the document (`sections_of_shows`), and it ends
where the document does (`endIndex_of_shows`).
-/

namespace Docwright.Prose

/-- An element of a snapshot tells of a paragraph at a position; its text may come in parts. -/
structure Tells (position : Int) (e : Snapshot.Element) (p : Paragraph) : Prop where
  start : e.start = some position
  stop : e.stop = some (position + p.width)
  paragraph : ∃ q, e.paragraph = some q ∧ q.style = p.style ∧ String.join q.texts = p.text

inductive TellsFrom : Int → Snapshot → List Paragraph → Prop where
  | nil (position : Int) : TellsFrom position [] []
  | cons {position : Int} {e : Snapshot.Element} {p : Paragraph} {es : Snapshot} {ps : List Paragraph}
    (head : Tells position e p) (tail : TellsFrom (position + p.width) es ps) :
    TellsFrom position (e :: es) (p :: ps)

/-- A snapshot tells of the paragraphs of a document, behind elements that are no paragraphs. -/
def Shows (s : Snapshot) (ps : List Paragraph) : Prop :=
  ∃ breaks es, s = breaks ++ es ∧ (∀ e ∈ breaks, e.paragraph = none) ∧ TellsFrom 1 es ps

def elementsFrom (position : Int) : List Paragraph → Snapshot
  | [] => []
  | p :: ps =>
    { start := some position, stop := some (position + p.width),
      paragraph := some ⟨p.style, [p.text]⟩, grid := none } :: elementsFrom (position + p.width) ps

/-- A snapshot with nothing but the paragraphs. -/
def report (ps : List Paragraph) : Snapshot :=
  elementsFrom 1 ps

def Paragraph.sectionAt (position : Int) (p : Paragraph) : Option Snapshot.Section :=
  p.level?.map fun level =>
    { heading := p.heading, level, start := position, stop := position + p.width }

def sectionsFrom (position : Int) : List Paragraph → List Snapshot.Section
  | [] => []
  | p :: ps => (p.sectionAt position).toList ++ sectionsFrom (position + p.width) ps

/-- The headings that a snapshot tells of, with their levels. -/
def headings (s : Snapshot) : List (String × Nat) :=
  (Snapshot.sections s).map fun x => (x.heading, x.level)

theorem tells_sections {position : Int} {es : Snapshot} {ps : List Paragraph}
    (h : TellsFrom position es ps) : Snapshot.sections es = sectionsFrom position ps := by
  induction h with
  | nil => rfl
  | @cons position e p es ps head _ ih =>
    obtain ⟨q, paragraph, style, text⟩ := head.paragraph
    have first : Snapshot.section? e = p.sectionAt position := by
      simp only [Snapshot.section?, paragraph, Option.bind_eq_bind, Option.bind_some, style, text,
        head.start, head.stop, Option.getD_some, Paragraph.sectionAt, Paragraph.level?,
        Paragraph.heading]
      cases Snapshot.headingLevel? p.style <;> rfl
    rw [sectionsFrom, ← ih, ← first]
    cases found : Snapshot.section? e <;> simp [Snapshot.sections, found]

theorem sections_of_shows {s : Snapshot} {ps : List Paragraph} (h : Shows s ps) :
    Snapshot.sections s = sectionsFrom 1 ps := by
  obtain ⟨breaks, es, rfl, plain, tells⟩ := h
  have none : Snapshot.sections breaks = [] := by
    apply List.filterMap_eq_nil_iff.mpr
    intro e he
    simp only [Snapshot.section?, plain e he]
    rfl
  have all : Snapshot.sections (breaks ++ es) = Snapshot.sections breaks ++ Snapshot.sections es :=
    List.filterMap_append
  rw [all, none, tells_sections tells, List.nil_append]

theorem tells_stop {position : Int} {es : Snapshot} {ps : List Paragraph} (h : TellsFrom position es ps)
    (nonempty : ps ≠ []) : es.getLast?.bind (·.stop) = some (position + width (glyphs ps)) := by
  induction h with
  | nil => exact absurd rfl nonempty
  | @cons position e p es ps head tail ih =>
    cases tail with
    | nil =>
      simp only [List.getLast?_singleton, Option.bind_some, head.stop, glyphs_cons, width_append,
        width_paragraph]
      rfl
    | cons head' tail' =>
      have later := ih (List.cons_ne_nil _ _)
      rw [List.getLast?_cons_cons, later, glyphs_cons p, width_append, width_paragraph]
      congr 1
      omega

theorem endIndex_of_shows {s : Snapshot} {ps : List Paragraph} (h : Shows s ps) (nonempty : ps ≠ []) :
    s.endIndex = width (glyphs ps) := by
  obtain ⟨breaks, es, rfl, _, tells⟩ := h
  have stop := tells_stop tells nonempty
  obtain ⟨p, rest, rfl⟩ := List.exists_cons_of_ne_nil nonempty
  have positive : 0 < width (glyphs (p :: rest)) := by
    rw [glyphs_cons, width_append, width_paragraph, Paragraph.width]
    omega
  obtain ⟨e, last, stop⟩ := Option.bind_eq_some_iff.mp stop
  have whole : (breaks ++ es).getLast? = some e := by rw [List.getLast?_append, last]; rfl
  simp only [Snapshot.endIndex, whole, stop, Option.getD_some]
  omega

theorem tellsFrom_elementsFrom (position : Int) (ps : List Paragraph) :
    TellsFrom position (elementsFrom position ps) ps := by
  induction ps generalizing position with
  | nil => exact .nil position
  | cons p ps ih => exact .cons ⟨rfl, rfl, _, rfl, rfl, by simp [String.join]⟩ (ih _)

theorem shows_report (ps : List Paragraph) : Shows (report ps) ps :=
  ⟨[], _, rfl, List.forall_mem_nil _, tellsFrom_elementsFrom 1 ps⟩

theorem sectionsFrom_append (position : Int) (ps qs : List Paragraph) :
    sectionsFrom position (ps ++ qs) =
      sectionsFrom position ps ++ sectionsFrom (position + width (glyphs ps)) qs := by
  induction ps generalizing position with
  | nil => simp [sectionsFrom, glyphs, width]
  | cons p ps ih =>
    have shift : position + p.width + width (glyphs ps) = position + width (glyphs (p :: ps)) := by
      rw [glyphs_cons, width_append, width_paragraph]
      omega
    rw [List.cons_append, sectionsFrom, sectionsFrom, ih, shift, List.append_assoc]

theorem mem_sectionsFrom {position : Int} {ps : List Paragraph} {x : Snapshot.Section}
    (h : x ∈ sectionsFrom position ps) : ∃ q ∈ ps, q.level?.isSome ∧ x.heading = q.heading := by
  induction ps generalizing position with
  | nil => cases h
  | cons p ps ih =>
    rcases List.mem_append.mp h with here | later
    · obtain ⟨level, hl, rfl⟩ := Option.map_eq_some_iff.mp (Option.mem_toList.mp here)
      exact ⟨p, List.mem_cons_self, by rw [hl]; rfl, rfl⟩
    · obtain ⟨q, hq, same⟩ := ih later
      exact ⟨q, List.mem_cons_of_mem _ hq, same⟩

theorem sectionsFrom_eq_nil {ps : List Paragraph} (plain : ∀ q ∈ ps, q.level? = none) (position : Int) :
    sectionsFrom position ps = [] := by
  induction ps generalizing position with
  | nil => rfl
  | cons p ps ih =>
    have head := plain p List.mem_cons_self
    have tail := ih (fun q hq => plain q (List.mem_cons_of_mem _ hq)) (position + p.width)
    rw [sectionsFrom, Paragraph.sectionAt, head, tail]
    rfl

theorem map_sectionsFrom (position : Int) (ps : List Paragraph) :
    (sectionsFrom position ps).map (fun s => (s.heading, s.level)) = outline ps := by
  induction ps generalizing position with
  | nil => rfl
  | cons p ps ih =>
    rw [sectionsFrom, List.map_append, ih]
    simp only [Paragraph.sectionAt, outline, List.filterMap_cons, Paragraph.entry?]
    cases p.level? <;> rfl

theorem headings_of_shows {s : Snapshot} {ps : List Paragraph} (h : Shows s ps) :
    headings s = outline ps := by
  rw [headings, sections_of_shows h, map_sectionsFrom]

end Docwright.Prose
