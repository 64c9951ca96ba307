import Docwright.Proofs.Prose.Section

namespace Docwright.Prose

open Edit Writer

theorem outline_eq_nil {ps : List Paragraph} (plain : ∀ q ∈ ps, q.level? = none) : outline ps = [] := by
  apply List.filterMap_eq_nil_iff.mpr
  intro q hq
  rw [Paragraph.entry?, plain q hq]
  rfl

theorem outline_ne_nil {p : Paragraph} {ps : List Paragraph} (mem : p ∈ ps) (isHeading : p.level?.isSome) :
    outline ps ≠ [] := by
  obtain ⟨level, hl⟩ := Option.isSome_iff_exists.mp isHeading
  intro none
  have entry := List.filterMap_eq_nil_iff.mp none p mem
  rw [Paragraph.entry?, hl] at entry
  cases entry

/-- A text with a line end at its end makes paragraphs of its own. -/
theorem paragraphs_typed (front : List Paragraph) (style : String) (cs : List Char) (rest : Draft) :
    paragraphs (glyphs front ++ typed style (cs ++ ['\n']) ++ rest) =
      front ++ (paragraphs (typed style (cs ++ ['\n'])) ++ paragraphs rest) := by
  rw [List.append_assoc, paragraphs_glyphs_append, typed_concat, paragraphs_concat_append]

theorem exists_typed_paragraph (style : String) (cs : List Char) :
    ∃ q ∈ paragraphs (typed style (cs ++ ['\n'])), q.style = style := by
  have nonempty := paragraphs_concat_ne (typed style cs) style
  rw [← typed_concat] at nonempty
  obtain ⟨q, hq⟩ := List.exists_mem_of_ne_nil _ nonempty
  exact ⟨q, hq, style_of_mem_typed (style_of_mem_paragraphs hq)⟩

theorem plain_typed {style : String} (plain : Snapshot.headingLevel? style = none) (cs : List Char) :
    ∀ q ∈ paragraphs (typed style cs), q.level? = none := by
  intro q hq
  rw [Paragraph.level?, style_of_mem_typed (style_of_mem_paragraphs hq)]
  exact plain

section

variable {s : Snapshot} {before after : List Paragraph} {p : Paragraph} {heading : String}

/-- The outline before and after, when paragraphs are put between two parts of a document. -/
theorem outline_insert_ne (front new back : List Paragraph) (h : outline new ≠ []) :
    outline (front ++ (new ++ back)) ≠ outline (front ++ back) := by
  intro same
  have sizes := congrArg List.length same
  have := List.length_pos_iff.mpr h
  simp only [outline_append, List.length_append] at sizes
  omega

theorem outline_plain_tail {front back : List Paragraph} (plain : ∀ q ∈ back, q.level? = none) :
    outline (front ++ back) = outline front := by
  rw [outline_append, outline_eq_nil plain, List.append_nil]

/-- No heading follows, but text does. -/
def LastWithBody (after : List Paragraph) : Prop :=
  after ≠ [] ∧ ∀ q ∈ after, q.level? = none

/-- A section has been given a new body. The headings stay as they were exactly if it is the last
section and had a body; then another text takes the place of the new one, as it would have taken the
place of the old one. -/
structure Replaced (s : Snapshot) (heading : String) (after : List Paragraph) (old new : Draft) :
    Prop where
  headings : ∀ later, Shows later (paragraphs new) →
    (Prose.headings later = Prose.headings s ↔ LastWithBody after)
  again : LastWithBody after → ∀ later, Shows later (paragraphs new) → ∀ content,
    ∃ last, Turns later heading content new last ∧ Turns s heading content old last

theorem exists_replaced_before_heading {body rest : List Paragraph} {next : Paragraph}
    (shown : Shows s (before ++ p :: (body ++ next :: rest))) (target : FirstHeading heading before p)
    (plain : ∀ q ∈ body, q.level? = none) (isHeading : next.level?.isSome) (content : String) :
    ∃ new, Turns s heading content (glyphs (before ++ p :: (body ++ next :: rest))) new ∧
      Replaced s heading (body ++ next :: rest) (glyphs (before ++ p :: (body ++ next :: rest))) new := by
  have followed : ¬LastWithBody (body ++ next :: rest) := by
    rintro ⟨_, none⟩
    rw [none next (List.mem_append_right _ List.mem_cons_self)] at isHeading
    cases isHeading
  refine ⟨_, turns_before_heading shown target plain isHeading content, fun later told => ?_,
    fun h => absurd h followed⟩
  obtain ⟨q, hq, style⟩ := exists_typed_paragraph next.style (bodyLine content)
  have more : outline (paragraphs (typed next.style (bodyLine content ++ ['\n']))) ≠ [] :=
    outline_ne_nil hq (by rw [Paragraph.level?, style]; exact isHeading)
  have added := outline_insert_ne (before ++ [p]) _ (next :: rest) more
  have same : outline (before ++ p :: (body ++ next :: rest)) =
      outline (before ++ [p] ++ (next :: rest)) := by
    rw [List.append_cons, ← List.append_assoc, outline_append, outline_plain_tail plain,
      ← outline_append]
  rw [headings_of_shows told, headings_of_shows shown, toList_bodyText, paragraphs_typed,
    paragraphs_glyphs, same]
  exact ⟨fun equal => absurd equal added, fun h => absurd h followed⟩

theorem exists_replaced_at_end (shown : Shows s (before ++ [p])) (target : FirstHeading heading before p)
    (content : String) :
    ∃ new, Turns s heading content (glyphs (before ++ [p])) new ∧
      Replaced s heading [] (glyphs (before ++ [p])) new := by
  have bare : ¬LastWithBody [] := fun h => h.1 rfl
  refine ⟨_, turns_at_end shown target content, fun later told => ?_, fun h => absurd h bare⟩
  have more : outline (paragraphs (typed "NORMAL_TEXT" (content.toList ++ ['\n'])) ++
      paragraphs [.lineEnd p.style]) ≠ [] :=
    outline_ne_nil (p := ⟨p.style, []⟩) (List.mem_append_right _ List.mem_cons_self) target.level
  have added := outline_insert_ne (before ++ [p]) _ [] more
  rw [List.append_nil, List.append_nil] at added
  rw [headings_of_shows told, headings_of_shows shown, paragraphs_typed]
  exact ⟨fun equal => absurd equal added, fun h => absurd h bare⟩

theorem exists_replaced_last {body : List Paragraph} {last : Paragraph}
    (shown : Shows s (before ++ p :: (body ++ [last]))) (target : FirstHeading heading before p)
    (plain : ∀ q ∈ body ++ [last], q.level? = none) (content : String) :
    ∃ new, Turns s heading content (glyphs (before ++ p :: (body ++ [last]))) new ∧
      Replaced s heading (body ++ [last]) (glyphs (before ++ p :: (body ++ [last]))) new := by
  have settled : LastWithBody (body ++ [last]) := ⟨List.concat_ne_nil last body, plain⟩
  have plainLast : Snapshot.headingLevel? last.style = none :=
    plain last (List.mem_append_right _ (List.mem_singleton_self last))
  -- What has been written is a last section with a body again, which ends in the same style.
  let written := paragraphs (typed last.style (bodyLine content ++ ['\n']))
  let rest : Paragraph := ⟨last.style, []⟩
  have plainAgain : ∀ q ∈ written ++ [rest], q.level? = none := by
    intro q hq
    rcases List.mem_append.mp hq with hq | hq
    · exact plain_typed plainLast _ q hq
    · rw [List.mem_singleton.mp hq]
      exact plainLast
  have parts : paragraphs (glyphs (before ++ [p]) ++ typed last.style (bodyText content).toList ++
      [.lineEnd last.style]) = before ++ p :: (written ++ [rest]) := by
    rw [toList_bodyText, paragraphs_typed, ← List.append_cons]
    rfl
  have flat : glyphs (before ++ p :: (written ++ [rest])) =
      glyphs (before ++ [p]) ++ typed last.style (bodyText content).toList ++ [.lineEnd last.style] := by
    rw [← parts, glyphs_paragraphs_concat]
  refine ⟨_, turns_last shown target plain content, fun later told => ⟨fun _ => settled, fun _ => ?_⟩,
    fun _ later told again => ?_⟩
  · rw [parts] at told
    rw [headings_of_shows told, headings_of_shows shown,
      List.append_cons before p (written ++ [rest]), outline_plain_tail plainAgain,
      List.append_cons before p (body ++ [last]), outline_plain_tail plain]
  · rw [parts] at told
    rw [← flat]
    exact ⟨_, turns_last told target plainAgain again, turns_last shown target plain again⟩

/-- What follows a heading is nothing, or plain paragraphs, or some of them and then a heading. -/
theorem exists_replaced (shown : Shows s (before ++ p :: after)) (target : FirstHeading heading before p)
    (content : String) : ∃ new, Turns s heading content (glyphs (before ++ p :: after)) new ∧
      Replaced s heading after (glyphs (before ++ p :: after)) new := by
  cases found : after.find? fun q => q.level?.isSome with
  | some next =>
    obtain ⟨isHeading, body, rest, rfl, plain⟩ := List.find?_eq_some_iff_append.mp found
    refine exists_replaced_before_heading shown target (fun q hq => ?_) isHeading content
    simpa using plain q hq
  | none =>
    have plain : ∀ q ∈ after, q.level? = none := by simpa using found
    rcases List.eq_nil_or_concat after with rfl | ⟨body, last, rfl⟩
    · exact exists_replaced_at_end shown target content
    · rw [List.concat_eq_append] at shown plain ⊢
      exact exists_replaced_last shown target plain content

end

/-- The edits for a heading of a document are always found, submitted and carried out. They leave
the headings of the document as they were if the section is the last one and has a body, and in no
other case: otherwise the new text, or an empty paragraph at the end, becomes a heading. -/
theorem headings_kept_iff_last_with_body {s : Snapshot} {before after : List Paragraph} {p : Paragraph}
    {heading : String} (shown : Shows s (before ++ p :: after)) (target : FirstHeading heading before p)
    (given : Text.allBlank heading = false) (content : String) :
    ∃ ops new,
      (∀ {σ : Type} (w : Writer σ) (id : DocumentId) (session session' : Session σ) (document : Json),
        w.fetch id session = (.ok document, session') → Snapshot.ofJson document = s →
        w.replaceSection id heading content session =
          w.submitEdits id "update_section" (.ok ops) session') ∧
      replay ops (glyphs (before ++ p :: after)) = some new ∧
      Replaced s heading after (glyphs (before ++ p :: after)) new := by
  obtain ⟨new, ⟨ops, edits, replayed⟩, replaced⟩ := exists_replaced shown target content
  refine ⟨ops, new, ?_, replayed, replaced⟩
  intro σ w id session session' document fetched snapshot
  have required := requireHeading_eq_ok given
  simp only [replaceSection, bind, Action.andThen, Action.settled, required, fetched, snapshot, edits]

def twoSections : List Paragraph :=
  [⟨"HEADING_1", "Intro".toList⟩, ⟨"NORMAL_TEXT", "Body text".toList⟩,
   ⟨"HEADING_1", "Next".toList⟩, ⟨"NORMAL_TEXT", "More".toList⟩]

theorem last_section_keeps_headings :
    ∃ ops new, replay ops (glyphs twoSections) = some new ∧
      (∀ later, Shows later (paragraphs new) → headings later = [("Intro", 1), ("Next", 1)]) ∧
      ∀ later, Shows later (paragraphs new) → ∀ content, ∃ last,
        Turns later " Next" content new last ∧
        Turns (report twoSections) " Next" content (glyphs twoSections) last := by
  have target : FirstHeading " Next" (twoSections.take 2) ⟨"HEADING_1", "Next".toList⟩ :=
    ⟨rfl, by decide +kernel, by decide +kernel⟩
  have settled : LastWithBody (twoSections.drop 3) := ⟨List.cons_ne_nil _ _, by decide +kernel⟩
  obtain ⟨ops, new, _, replayed, replaced⟩ :=
    headings_kept_iff_last_with_body (shows_report twoSections) target rfl "Tail"
  exact ⟨ops, new, replayed, fun later told => (replaced.headings later told).mpr settled,
    replaced.again settled⟩

/-- Text in front of a heading takes on its style. A second edit does not find it, and adds it
again. -/
theorem next_heading_styles_new_text :
    ∃ ops new again newer,
      headings (report twoSections) = [("Intro", 1), ("Next", 1)] ∧
      sectionEdits (report twoSections) "Intro" "New body" = .ok ops ∧
      replay ops (glyphs twoSections) = some new ∧
      headings (report (paragraphs new)) = [("Intro", 1), ("", 1), ("New body", 1), ("Next", 1)] ∧
      sectionEdits (report (paragraphs new)) "Intro" "New body" = .ok again ∧
      replay again new = some newer ∧
      headings (report (paragraphs newer)) =
        [("Intro", 1), ("", 1), ("New body", 1), ("", 1), ("New body", 1), ("Next", 1)] :=
  ⟨[.delete ⟨7, 17, by decide⟩, .insertText 7 "\nNew body\n"], _, [.insertText 7 "\nNew body\n"], _,
    rfl, rfl, rfl, rfl, rfl, rfl, rfl⟩

end Docwright.Prose
