import Docwright.Proofs.Prose.Report
import Docwright.Writer.Section

/-!
What replacing the body of a section does to a document. The new text takes the style of the
paragraph in front of which it is inserted: of the next heading, if there is one
(`turns_before_heading`); of the rest of the old body in the last section (`turns_last`); and of the
heading itself if nothing follows it, where all but an empty paragraph at the end is made plain
again (`turns_at_end`).
-/

namespace Docwright.Prose

open Edit Writer

/-- A heading is the first one in its document with a text. -/
structure FirstHeading (text : String) (before : List Paragraph) (p : Paragraph) : Prop where
  level : p.level?.isSome
  heading : p.heading = Text.strip text
  first : ∀ q ∈ before, q.level?.isSome → q.heading ≠ Text.strip text

def bodyText (content : String) : String :=
  "\n" ++ content ++ "\n"

/-- What is to be typed, without the line end at its end. -/
def bodyLine (content : String) : List Char :=
  '\n' :: content.toList

theorem toList_bodyText (content : String) : (bodyText content).toList = bodyLine content ++ ['\n'] := by
  simp [bodyText, bodyLine]

/-- Puts a text in the place of what stands in a range, which may be empty. -/
def substitute (start stop : Int) (text : String) : List Operation :=
  (if h : start < stop then [.delete ⟨start, stop, by omega⟩] else []) ++ [.insertText start text]

theorem insertText_bodyText (b : Builder) (content : String) : b.insertText (bodyText content) =
    ⟨b.cursor + Text.width (bodyText content), b.operations ++ [.insertText b.cursor (bodyText content)]⟩ :=
  if_neg (Text.append_ne (by decide))

theorem replaceBody_eq_substitute {stop : Int} {s : Snapshot.Section} {next : Option Int}
    (content : String) (first : 1 ≤ s.stop) (behind : s.stop ≤ stop) :
    replaceBody stop s next content = .ok (substitute s.stop (next.getD stop) (bodyText content)) := by
  have begun : Builder.start (min s.stop stop) = .ok ⟨s.stop, []⟩ := by
    rw [Int.min_eq_left behind]
    exact if_neg (by omega)
  have inside : ¬stop < s.stop := by omega
  rw [replaceBody, editsAt, begun, ← bodyText]
  by_cases full : s.stop < next.getD stop
  · have span : Span.of s.stop (next.getD stop) = .ok ⟨s.stop, next.getD stop, by omega⟩ :=
      dif_pos (by omega)
    simp only [bind, Except.bind, pure, Except.pure, full, inside, ↓reduceIte, ↓reduceDIte,
      Builder.deleteRange, span, Except.map, Builder.push, insertText_bodyText, substitute,
      List.nil_append]
  · simp only [bind, Except.bind, pure, Except.pure, full, inside, ↓reduceIte, ↓reduceDIte,
      insertText_bodyText, substitute, List.nil_append]

/-- A heading that ends the document. -/
theorem replaceBody_behind_end {stop : Int} {s : Snapshot.Section} (content : String) (first : 1 ≤ stop)
    (last : stop < s.stop) :
    ∃ h, replaceBody stop s none content = .ok [.insertText stop (bodyText content),
      .nameParagraphs ⟨stop + 1, stop + Text.width (bodyText content), h⟩ "NORMAL_TEXT"] := by
  have begun : Builder.start (min s.stop stop) = .ok ⟨stop, []⟩ := by
    rw [Int.min_eq_right (by omega)]
    exact if_neg (by omega)
  have order : stop + 1 ≤ stop + Text.width (bodyText content) := by
    have := Text.width_pos (s := bodyText content) (Text.append_ne (by decide))
    omega
  have span : Span.of (stop + 1) (stop + Text.width (bodyText content)) = .ok ⟨_, _, order⟩ :=
    dif_pos order
  have empty : ¬s.stop < stop := by omega
  refine ⟨order, ?_⟩
  rw [replaceBody, editsAt, begun, ← bodyText]
  simp only [bind, Except.bind, pure, Except.pure, Option.getD_none, empty, last, ↓reduceIte,
    Builder.nameParagraphs, span, Except.map, Builder.push, insertText_bodyText, List.nil_append,
    List.cons_append]

theorem replay_substitute {front mid back : Draft} (nonempty : back ≠ []) {start stop : Int}
    (first : start = width front + 1) (last : stop = start + width mid) (text : String) :
    replay (substitute start stop text) (front ++ mid ++ back) =
      some (front ++ typed (firstStyle back) text.toList ++ back) := by
  have inserted := carryOut_insertText front nonempty first text
  by_cases full : start < stop
  · have deleted : carryOut (front ++ mid ++ back) (.delete ⟨start, stop, by omega⟩) =
        some (front ++ back) := by
      simp only [carryOut, cutOut_append front mid back (s := ⟨start, stop, _⟩) first last,
        Option.bind_some, nonempty, ↓reduceIte]
    simp only [substitute, full, ↓reduceDIte, List.cons_append, List.nil_append, replay, deleted,
      Option.bind_some, inserted, Option.bind_fun_some]
  · have empty : mid = [] := eq_nil_of_width_eq_zero (by omega)
    subst empty
    simp only [substitute, full, ↓reduceDIte, List.nil_append, replay, List.append_nil, inserted,
      Option.bind_some]

theorem typed_bodyText (style content : String) : typed style (bodyText content).toList =
    [.lineEnd style] ++ typed style (content.toList ++ ['\n']) := by
  rw [toList_bodyText]
  rfl

/-- Behind a heading that ends the document, all but the last line end loses the style of the
heading. -/
theorem replay_behind_end (front : Draft) (style : String) {stop : Int} (place : stop = width front + 1)
    (content : String) (h : stop + 1 ≤ stop + Text.width (bodyText content)) :
    replay [.insertText stop (bodyText content),
        .nameParagraphs ⟨stop + 1, stop + Text.width (bodyText content), h⟩ "NORMAL_TEXT"]
        (front ++ [.lineEnd style]) =
      some (front ++ [.lineEnd style] ++ typed "NORMAL_TEXT" (content.toList ++ ['\n']) ++
        [.lineEnd style]) := by
  have inserted := carryOut_insertText front (List.cons_ne_nil (.lineEnd style) []) place
    (bodyText content)
  have split : front ++ typed style (bodyText content).toList ++ [.lineEnd style] =
      front ++ [.lineEnd style] ++ typed style (content.toList ++ ['\n']) ++ [.lineEnd style] := by
    rw [typed_bodyText]
    simp only [List.append_assoc]
  have whole : Text.width (bodyText content) = width (typed style (content.toList ++ ['\n'])) + 1 := by
    have typedWidth := width_typed style (bodyText content).toList
    rw [typed_bodyText, width_append] at typedWidth
    simp only [width, Glyph.width] at typedWidth
    rw [Text.width, ← typedWidth]
    omega
  have closed : isOpen (typed style (content.toList ++ ['\n'])) = false := by
    rw [typed_concat, isOpen, List.getLast?_concat]
  have named : carryOut
      (front ++ [.lineEnd style] ++ typed style (content.toList ++ ['\n']) ++ [.lineEnd style])
      (.nameParagraphs ⟨stop + 1, stop + Text.width (bodyText content), h⟩ "NORMAL_TEXT") =
      some (front ++ [.lineEnd style] ++ typed "NORMAL_TEXT" (content.toList ++ ['\n']) ++
        [.lineEnd style]) := by
    have parts := cutOut_append (front ++ [.lineEnd style]) (typed style (content.toList ++ ['\n']))
      [.lineEnd style] (s := ⟨stop + 1, stop + Text.width (bodyText content), h⟩)
      (by simp only [width_append, width, Glyph.width]; omega) (by simp only [whole]; omega)
    simp only [carryOut, parts, Option.map_some, closed, restyle_typed, Bool.false_eq_true, ↓reduceIte]
  rw [replay, inserted, Option.bind_some, firstStyle, split, replay, named]
  rfl

theorem requireHeading_eq_ok {heading : String} (filled : Text.allBlank heading = false) :
    requireHeading heading = .ok () := by
  rw [requireHeading, filled]
  rfl

theorem findSection_append {heading : String} {xs ys : List Snapshot.Section} {s : Snapshot.Section}
    (other : ∀ x ∈ xs, x.heading ≠ heading) (own : s.heading = heading) :
    findSection heading (xs ++ s :: ys) = some (s, ys.head?.map (·.start)) := by
  induction xs with
  | nil => simp only [List.nil_append, findSection, own, ↓reduceIte]
  | cons x xs ih =>
    have first := other x List.mem_cons_self
    simp only [List.cons_append, findSection, first, ↓reduceIte]
    exact ih fun y hy => other y (List.mem_cons_of_mem _ hy)

section

variable {s : Snapshot} {before after : List Paragraph} {p : Paragraph} {heading : String}

/-- The section of a first heading, and where the next one starts. -/
theorem findSection_eq (shown : Shows s (before ++ p :: after)) (target : FirstHeading heading before p) :
    ∃ found : Snapshot.Section, found.stop = width (glyphs (before ++ [p])) + 1 ∧
      findSection (Text.strip heading) (Snapshot.sections s) =
        some (found, (sectionsFrom found.stop after).head?.map (·.start)) := by
  obtain ⟨level, hl⟩ := Option.isSome_iff_exists.mp target.level
  have position : 1 + (width (glyphs before) : Int) + p.width = width (glyphs (before ++ [p])) + 1 := by
    rw [width_glyphs_concat]
    omega
  refine ⟨⟨p.heading, level, 1 + width (glyphs before), 1 + width (glyphs before) + p.width⟩, position, ?_⟩
  rw [sections_of_shows shown, sectionsFrom_append, sectionsFrom, Paragraph.sectionAt, hl]
  refine findSection_append (fun x hx => ?_) target.heading
  obtain ⟨q, hq, isHeading, same⟩ := mem_sectionsFrom hx
  rw [same]
  exact target.first q hq isHeading

/-- The edits that replace the body of a section turn one document into another. -/
def Turns (s : Snapshot) (heading content : String) (old new : Draft) : Prop :=
  ∃ ops, sectionEdits s heading content = .ok ops ∧ replay ops old = some new

theorem sectionEdits_eq {found : Snapshot.Section} {next : Option Int} {content : String}
    {ops : List Operation}
    (located : findSection (Text.strip heading) (Snapshot.sections s) = some (found, next))
    (replaced : replaceBody s.endIndex found next content = .ok ops) :
    sectionEdits s heading content = .ok ops := by
  simp only [sectionEdits, located, replaced]
  rfl

/-- What stands behind the body of a section stays, and gives the new text its style. -/
theorem turns_substitute {found : Snapshot.Section} {next : Option Int} {front mid back : Draft}
    (located : findSection (Text.strip heading) (Snapshot.sections s) = some (found, next))
    (start : found.stop = width front + 1) (stop : next.getD s.endIndex = found.stop + width mid)
    (inside : found.stop ≤ s.endIndex) (nonempty : back ≠ []) (content : String) :
    Turns s heading content (front ++ mid ++ back)
      (front ++ typed (firstStyle back) (bodyText content).toList ++ back) :=
  ⟨_, sectionEdits_eq located (replaceBody_eq_substitute content (by omega) inside),
    replay_substitute nonempty start stop (bodyText content)⟩

/-- The next heading stands at the insertion. -/
theorem turns_before_heading {body rest : List Paragraph} {next : Paragraph}
    (shown : Shows s (before ++ p :: (body ++ next :: rest))) (target : FirstHeading heading before p)
    (plain : ∀ q ∈ body, q.level? = none) (isHeading : next.level?.isSome) (content : String) :
    Turns s heading content (glyphs (before ++ p :: (body ++ next :: rest)))
      (glyphs (before ++ [p]) ++ typed next.style (bodyText content).toList ++ glyphs (next :: rest)) := by
  obtain ⟨found, stop, located⟩ := findSection_eq shown target
  obtain ⟨level, hl⟩ := Option.isSome_iff_exists.mp isHeading
  have parts : glyphs (before ++ p :: (body ++ next :: rest)) =
      glyphs (before ++ [p]) ++ glyphs body ++ glyphs (next :: rest) := by
    rw [List.append_cons, glyphs_append (before ++ [p]), glyphs_append body, List.append_assoc]
  have nextStart : (sectionsFrom found.stop (body ++ next :: rest)).head?.map (·.start) =
      some (found.stop + width (glyphs body)) := by
    rw [sectionsFrom_append, sectionsFrom_eq_nil plain, sectionsFrom, Paragraph.sectionAt, hl]
    rfl
  rw [nextStart] at located
  have ends := endIndex_of_shows shown (by simp)
  rw [parts, width_append, width_append, glyphs_cons next, width_append, width_paragraph,
    Paragraph.width] at ends
  have nonempty : glyphs (next :: rest) ≠ [] := by
    intro empty
    have all := paragraphs_glyphs (next :: rest)
    rw [empty] at all
    cases all
  have style : firstStyle (glyphs (next :: rest)) = next.style := firstStyle_paragraph next (glyphs rest)
  rw [parts, ← style]
  exact turns_substitute located stop rfl (by omega) nonempty content

/-- What is left of the last paragraph stands at the insertion. -/
theorem turns_last {body : List Paragraph} {last : Paragraph}
    (shown : Shows s (before ++ p :: (body ++ [last]))) (target : FirstHeading heading before p)
    (plain : ∀ q ∈ body ++ [last], q.level? = none) (content : String) :
    Turns s heading content (glyphs (before ++ p :: (body ++ [last])))
      (glyphs (before ++ [p]) ++ typed last.style (bodyText content).toList ++
        [.lineEnd last.style]) := by
  obtain ⟨found, stop, located⟩ := findSection_eq shown target
  have parts : glyphs (before ++ p :: (body ++ [last])) =
      glyphs (before ++ [p]) ++ (glyphs body ++ last.line.map .char) ++ [.lineEnd last.style] := by
    rw [List.append_cons, glyphs_append (before ++ [p]), glyphs_append body, glyphs_singleton last,
      Paragraph.glyphs]
    simp only [List.append_assoc]
  rw [sectionsFrom_eq_nil plain] at located
  have ends := endIndex_of_shows shown (by simp)
  rw [parts, width_append, width_append] at ends
  simp only [width, Glyph.width] at ends
  have bodyStop : s.endIndex = found.stop + width (glyphs body ++ last.line.map .char) := by omega
  rw [parts]
  exact turns_substitute located stop bodyStop (by omega) (List.cons_ne_nil _ _) content

/-- The heading itself stands at the insertion. -/
theorem turns_at_end (shown : Shows s (before ++ [p])) (target : FirstHeading heading before p)
    (content : String) :
    Turns s heading content (glyphs (before ++ [p]))
      (glyphs (before ++ [p]) ++ typed "NORMAL_TEXT" (content.toList ++ ['\n']) ++
        [.lineEnd p.style]) := by
  obtain ⟨found, stop, located⟩ := findSection_eq shown target
  have ends := endIndex_of_shows shown (by simp)
  have parts : glyphs (before ++ [p]) = glyphs before ++ p.line.map .char ++ [.lineEnd p.style] := by
    rw [glyphs_append, glyphs_singleton, Paragraph.glyphs, List.append_assoc]
  have place : s.endIndex = width (glyphs before ++ p.line.map .char) + 1 := by
    rw [ends, parts, width_append]
    simp only [width, Glyph.width]
    omega
  have first : 1 ≤ s.endIndex := by omega
  have outside : s.endIndex < found.stop := by omega
  obtain ⟨h, replaced⟩ := replaceBody_behind_end content first outside
  refine ⟨_, sectionEdits_eq located replaced, ?_⟩
  rw [parts]
  exact replay_behind_end _ p.style place content h

end

end Docwright.Prose
