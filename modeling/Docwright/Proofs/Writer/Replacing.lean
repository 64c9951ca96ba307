import Docwright.Proofs.Prose.Section
import Docwright.Proofs.Replay.Requests
import Docwright.Proofs.Snapshot.Tiling
import Docwright.Proofs.Writer.Session

namespace Docwright.Writer

open Edit Replay Prose Snapshot

variable {σ : Type}

/-- The elements of a snapshot make up a document, which ends with a line end. -/
structure Depicts (s : Snapshot) (document : List Content) : Prop where
  tiles : ∃ first, 0 ≤ first ∧ Tiles first s (document.length + 1)
  closed : ∃ body, document = body ++ [lineEnd]

/-- The first section with a heading, between what stands in front of it and behind it. -/
structure FirstSection (s : Snapshot) (heading : String) (before : Snapshot) (found : Section)
    (after : Snapshot) : Prop where
  split : ∃ e, s = before ++ e :: after ∧ section? e = some found
  named : found.heading = heading
  first : ∀ x ∈ sections before, x.heading ≠ heading

/-- The contents in a range of positions. -/
def extent (document : List Content) (start stop : Int) : List Content :=
  (back document start).take (stop - start).toNat

theorem exists_firstSection {s : Snapshot} {heading : String}
    (present : ∃ x ∈ sections s, x.heading = heading) :
    ∃ before found after, FirstSection s heading before found after := by
  induction s with
  | nil =>
    obtain ⟨x, hx, _⟩ := present
    cases hx
  | cons e es ih =>
    by_cases here : ∃ x, section? e = some x ∧ x.heading = heading
    · obtain ⟨x, headed, named⟩ := here
      exact ⟨[], x, es, ⟨e, rfl, headed⟩, named, List.forall_mem_nil _⟩
    · have later : ∃ x ∈ sections es, x.heading = heading := by
        obtain ⟨x, hx, named⟩ := present
        rw [sections_cons] at hx
        rcases List.mem_append.mp hx with first | later
        · exact absurd ⟨x, Option.mem_toList.mp first, named⟩ here
        · exact ⟨x, later, named⟩
      obtain ⟨before, found, after, ⟨f, rfl, headed⟩, named, first⟩ := ih later
      refine ⟨e :: before, found, after, ⟨f, rfl, headed⟩, named, ?_⟩
      intro x hx same
      rw [sections_cons] at hx
      rcases List.mem_append.mp hx with start | rest
      · exact here ⟨x, Option.mem_toList.mp start, same⟩
      · exact first x rest same

theorem FirstSection.located {s before after : Snapshot} {heading : String} {found : Section}
    (target : FirstSection s heading before found after) :
    findSection heading (sections s) = some (found, (sections after).head?.map (·.start)) := by
  obtain ⟨e, rfl, headed⟩ := target.split
  rw [sections_append, sections_cons, headed]
  exact findSection_append target.first target.named

theorem carryOutRequests_substitute {document : List Content} {start stop : Int} (first : 1 ≤ start)
    (ordered : start ≤ stop) (last : stop ≤ document.length) (text : String) :
    carryOutRequests document (requests (substitute start stop text)) =
      some (front document start ++ textContents text ++ back document stop) := by
  unfold substitute
  by_cases full : start < stop
  · have cut : (front document start).length = (start - 1).toNat := by
      rw [front, List.length_take]
      omega
    have left : (front document start ++ back document stop).length + (stop - start) = document.length := by
      rw [List.length_append, cut, back, List.length_drop]
      omega
    have parts : front (front document start ++ back document stop) start = front document start ∧
        back (front document start ++ back document stop) start = back document stop := by
      simp only [front, back] at cut ⊢
      exact ⟨List.take_left' cut, List.drop_left' cut⟩
    rw [dif_pos full, List.singleton_append, carryOutRequests_cons, effectOf, Option.bind_some,
      on_delete first ordered last, Option.bind_some, carryOutRequests_cons, effectOf,
      Option.bind_some, on_insert first (by omega), Option.bind_some, parts.1, parts.2]
    rfl
  · have same : stop = start := by omega
    subst same
    rw [dif_neg full, List.nil_append, carryOutRequests_cons, effectOf, Option.bind_some,
      on_insert first last, Option.bind_some]
    rfl

/-- A batch that puts a text in the place of what stands between two positions, which may be
nothing. What stands behind them includes the last line end. -/
structure Replaces (ops : List Operation) (document new : List Content) (start stop : Int)
    (text : String) : Prop where
  inside : 1 ≤ start ∧ start ≤ stop ∧ stop ≤ document.length
  outcome : new = front document start ++ textContents text ++ back document stop
  carried : carryOutRequests document (requests ops) = some new
  filled : ∀ r ∈ requests ops, ∃ effect, readRequest r = some effect ∧ effect.Filled
  closed : ∃ kept, back document stop = kept ++ [lineEnd]

/-- The heading of a section stands as it stood, but for what has changed in front of it. -/
def Kept (document new : List Content) (x : Section) : Prop :=
  extent new (x.start + (new.length - document.length)) (x.stop + (new.length - document.length)) =
    extent document x.start x.stop

theorem Replaces.kept {ops : List Operation} {document new : List Content} {start stop : Int}
    {text : String} (replaces : Replaces ops document new start stop text) {x : Section}
    (behind : stop ≤ x.start) : Kept document new x := by
  obtain ⟨first, ordered, last⟩ := replaces.inside
  have ahead : (front document start).length = (start - 1).toNat := by
    rw [front, List.length_take]
    omega
  have put : ((front document start ++ textContents text).length : Int) =
      start - 1 + (textContents text).length := by
    rw [List.length_append, ahead]
    omega
  have total : (new.length : Int) =
      (front document start ++ textContents text).length + (document.length - (stop - 1)) := by
    rw [replaces.outcome, List.length_append, back, List.length_drop]
    omega
  have width : x.stop + (new.length - document.length : Int) - (x.start + (new.length - document.length)) =
      x.stop - x.start := by omega
  have skipped : (x.start + (new.length - document.length : Int) - 1).toNat =
      (front document start ++ textContents text).length + (x.start - stop).toNat := by omega
  have place : (stop - 1).toNat + (x.start - stop).toNat = (x.start - 1).toNat := by omega
  unfold Kept extent
  rw [width, back, skipped, replaces.outcome, List.drop_length_add_append, back, List.drop_drop, place,
    back]

/-- A document ends with the same line end. -/
theorem closed_back {document : List Content} (ends : ∃ body, document = body ++ [lineEnd]) {stop : Int}
    (last : stop ≤ document.length) : ∃ kept, back document stop = kept ++ [lineEnd] := by
  obtain ⟨body, rfl⟩ := ends
  have inside : (stop - 1).toNat ≤ body.length := by
    rw [List.length_append, List.length_singleton] at last
    omega
  exact ⟨back body stop, List.drop_append_of_le_length inside⟩

theorem filled_substitute {start stop : Int} {text : String} (filled : text ≠ "") :
    ∀ op ∈ substitute start stop text, ∃ effect, effectOf op = some effect ∧ effect.Filled := by
  have brought : textContents text ≠ [] := by
    intro empty
    have width := congrArg List.length empty
    have positive := Text.width_pos filled
    rw [textContents, List.length_map, Text.length_units] at width
    exact absurd width (Nat.ne_of_gt positive)
  intro op hop
  rcases List.mem_append.mp hop with deletion | insertion
  · split at deletion
    · next full =>
      rw [List.mem_singleton.mp deletion]
      exact ⟨_, rfl, full⟩
    · cases deletion
  · rw [List.mem_singleton.mp insertion]
    exact ⟨_, rfl, brought⟩

theorem filled_requests {ops : List Operation}
    (filled : ∀ op ∈ ops, ∃ effect, effectOf op = some effect ∧ effect.Filled) :
    ∀ r ∈ requests ops, ∃ effect, readRequest r = some effect ∧ effect.Filled := by
  intro r hr
  obtain ⟨op, hop, rfl⟩ := List.mem_map.mp hr
  rw [readRequest_request]
  exact filled op hop

/-- The body of a section whose heading does not end the document. -/
theorem replaces_body {document : List Content} {start stop : Int} (first : 1 ≤ start)
    (ordered : start ≤ stop) (last : stop ≤ document.length)
    (ends : ∃ body, document = body ++ [lineEnd]) (content : String) :
    Replaces (substitute start stop (bodyText content)) document
      (front document start ++ textContents (bodyText content) ++ back document stop) start stop
      (bodyText content) where
  inside := ⟨first, ordered, last⟩
  outcome := rfl
  carried := carryOutRequests_substitute first ordered last _
  filled := filled_requests (filled_substitute (Text.append_ne (by decide)))
  closed := closed_back ends last

/-- Behind a heading that ends the document, the new text is made plain as well. -/
theorem replaces_behind_end {document : List Content} (ends : ∃ body, document = body ++ [lineEnd])
    {stop : Int} (last : stop = document.length) (content : String)
    (h : stop + 1 ≤ stop + Text.width (bodyText content)) :
    Replaces [.insertText stop (bodyText content),
        .nameParagraphs ⟨stop + 1, stop + Text.width (bodyText content), h⟩ "NORMAL_TEXT"] document
      (front document stop ++ textContents (bodyText content) ++ back document stop) stop stop
      (bodyText content) := by
  have first : 1 ≤ stop := by
    obtain ⟨body, rfl⟩ := ends
    rw [last, List.length_append, List.length_singleton]
    omega
  have order := Int.le_of_eq last
  have batch : substitute stop stop (bodyText content) = [.insertText stop (bodyText content)] := by
    rw [substitute, dif_neg (Int.lt_irrefl stop)]
    rfl
  have plain := replaces_body first (Int.le_refl stop) order ends content
  rw [batch] at plain
  have wide : Text.width (bodyText content) = Text.width content + 2 := by
    have lineWidth : Text.width "\n" = 1 := by decide
    rw [bodyText, Text.width_append, Text.width_append, lineWidth]
    omega
  have placed : (front document stop ++ textContents (bodyText content) ++ back document stop).length =
      document.length + Text.width (bodyText content) := by
    rw [List.length_append, List.length_append, front, back, List.length_take, List.length_drop,
      textContents, List.length_map, Text.length_units]
    omega
  refine { plain with carried := ?_, filled := ?_ }
  · rw [← List.singleton_append, carryOutRequests_append, plain.carried, Option.bind_some,
      carryOutRequests_cons, effectOf, Option.bind_some, on_format (by omega) h (by rw [placed]; omega)]
    rfl
  · refine List.forall_mem_cons.mpr ⟨plain.filled _ List.mem_cons_self, ?_⟩
    refine filled_requests (List.forall_mem_singleton.mpr ⟨_, rfl, ?_⟩)
    change stop + 1 < stop + Text.width (bodyText content)
    omega

section

variable {s : Snapshot} {document : List Content} {heading : String}

/-- The positions of a heading and of what follows its section. -/
theorem FirstSection.positions {before after : Snapshot} {found : Section}
    (target : FirstSection s heading before found after) (depicts : Depicts s document) :
    1 ≤ found.stop ∧ s.endIndex = document.length ∧
      Tiles found.stop after (document.length + 1) := by
  obtain ⟨e, rfl, headed⟩ := target.split
  obtain ⟨first, positive, tiles⟩ := depicts.tiles
  obtain ⟨body, rfl⟩ := depicts.closed
  obtain ⟨middle, ahead, behind⟩ := tiles_append.mp tiles
  have start := ahead.le
  have ends := tiles.endIndex (by simp) (by simp)
  cases behind with
  | @cons _ next _ _ _ starts stops filled rest =>
    have stop := (section?_positions headed).2
    rw [stops, Option.getD_some] at stop
    subst stop
    exact ⟨by omega, ends, rest⟩

theorem exists_replaces (depicts : Depicts s document) {before after : Snapshot} {found : Section}
    (target : FirstSection s (Text.strip heading) before found after) (content : String) :
    ∃ ops new, sectionEdits s heading content = .ok ops ∧
      Replaces ops document new (min found.stop document.length)
        (max (nextStart after document.length) (min found.stop document.length))
        (bodyText content) ∧
      ∀ x ∈ sections after, Kept document new x := by
  obtain ⟨first, ends, behind⟩ := target.positions depicts
  obtain ⟨next_le, le_next, later⟩ := behind.nextStart_bounds rfl
  have located := target.located
  have order := behind.le
  by_cases inside : found.stop ≤ document.length
  · have ordered := le_next inside
    have replaces := replaces_body first ordered next_le depicts.closed content
    have edits : replaceBody s.endIndex found ((sections after).head?.map (·.start)) content =
        .ok (substitute found.stop (nextStart after document.length) (bodyText content)) := by
      rw [ends]
      exact replaceBody_eq_substitute content first inside
    rw [Int.min_eq_left inside, Int.max_eq_left ordered]
    exact ⟨_, _, sectionEdits_eq located edits, replaces, fun x hx => replaces.kept (later x hx)⟩
  · -- the heading ends the document, so that no element is left behind it
    have last : found.stop = document.length + 1 := by omega
    rw [last] at behind
    have nothing := behind.eq_nil
    subst nothing
    have lastPosition : (1 : Int) ≤ document.length := by
      have := one_le_endIndex s
      omega
    obtain ⟨h, edits⟩ := replaceBody_behind_end content lastPosition (Int.not_le.mp inside)
    have replaces := replaces_behind_end depicts.closed rfl content h
    have placed := (congrArg (replaceBody · found none content) ends).trans edits
    rw [Int.min_eq_right (by omega), Int.max_eq_right next_le]
    exact ⟨_, _, sectionEdits_eq located placed, replaces, List.forall_mem_nil _⟩

end

/-- Given a heading of the document, a section is found and its body is replaced: the batch takes
out what stands between the heading and the next heading of any level, or the end of the document,
and puts the text as a paragraph in its place. Where the heading ends the document, the text goes in
front of the last line end. Every request addresses positions of the document as it is when the
request is carried out, none covers nothing, and all sections behind the first one that has the
heading stand as they stood. -/
theorem section_replaced {s : Snapshot} {document : List Content} (depicts : Depicts s document)
    {heading : String} (given : Text.allBlank heading = false)
    (present : ∃ x ∈ sections s, x.heading = Text.strip heading) (content : String) :
    ∃ before found after ops new,
      FirstSection s (Text.strip heading) before found after ∧
      (∀ {σ : Type} (w : Writer σ) (id : DocumentId) (session session' : Session σ) (answer : Json),
        w.fetch id session = (.ok answer, session') → Snapshot.ofJson answer = s →
        w.replaceSection id heading content session =
          w.submitEdits id "update_section" (.ok ops) session') ∧
      Replaces ops document new (min found.stop document.length)
        (max (nextStart after document.length) (min found.stop document.length))
        ("\n" ++ content ++ "\n") ∧
      ∀ x ∈ sections after, Kept document new x := by
  obtain ⟨before, found, after, target⟩ := exists_firstSection present
  obtain ⟨ops, new, edits, replaces, kept⟩ := exists_replaces depicts target content
  refine ⟨before, found, after, ops, new, target, ?_, replaces, kept⟩
  intro σ w id session session' answer fetched shown
  have required := requireHeading_eq_ok given
  simp only [replaceSection, bind, Action.andThen, Action.settled, required, fetched, shown, edits]

def lineElement (start stop : Int) (style text : String) : Element where
  start := some start
  stop := some stop
  paragraph := some ⟨style, [text]⟩
  grid := none

/-- Two sections of one name, behind a section break. -/
def sameNames : Snapshot :=
  [⟨none, some 1, none, none⟩, lineElement 1 7 "HEADING_1" "Intro\n",
    lineElement 7 12 "NORMAL_TEXT" "Body\n", lineElement 12 18 "HEADING_2" "Intro\n",
    lineElement 18 23 "NORMAL_TEXT" "More\n"]

def sameNamesText : List Content :=
  textContents "Intro\nBody\nIntro\nMore" ++ [lineEnd]

theorem sameNames_replaced : Depicts sameNames sameNamesText ∧
    (∃ x ∈ sections sameNames, x.heading = Text.strip " Intro") ∧
    ∃ ops new, Replaces ops sameNamesText new 7 12 "\nNew\n" ∧
      new = textContents "Intro\n\nNew\nIntro\nMore\n" := by
  have depicts : Depicts sameNames sameNamesText :=
    ⟨⟨0, Int.le_refl 0, .cons rfl rfl (by decide) <| .cons rfl rfl (by decide) <|
      .cons rfl rfl (by decide) <| .cons rfl rfl (by decide) <| .cons rfl rfl (by decide) <| .nil _⟩, _, rfl⟩
  have sectionsHere : sections sameNames = [⟨"Intro", 1, 1, 7⟩, ⟨"Intro", 2, 12, 18⟩] := by
    with_unfolding_all rfl
  have name : Text.strip " Intro" = "Intro" := by decide +kernel
  have present : ∃ x ∈ sections sameNames, x.heading = Text.strip " Intro" := by
    rw [sectionsHere, name]
    exact ⟨_, List.mem_cons_self, rfl⟩
  have given : Text.allBlank " Intro" = false := rfl
  obtain ⟨before, found, after, ops, new, target, _, replaces, _⟩ :=
    section_replaced depicts given present "New"
  have located := target.located
  rw [sectionsHere, name] at located
  obtain ⟨rfl, next⟩ := Prod.mk.inj (Option.some.inj located)
  have follows : nextStart after sameNamesText.length = 12 := by
    rw [nextStart, ← next]
    rfl
  have length : sameNamesText.length = 22 := rfl
  rw [follows, length] at replaces
  refine ⟨depicts, present, ops, new, replaces, ?_⟩
  rw [replaces.outcome]
  rfl

end Docwright.Writer
