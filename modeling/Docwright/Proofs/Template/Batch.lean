import Docwright.Proofs.Replay.Writing
import Docwright.Proofs.Template.Accepted
import Docwright.Template.Compile

/-!
The edits of a template. `passages` says what a template writes, with no positions in a document,
and `jobs` which tables it fills in afterwards; compiling a proper template gives exactly the batch
of its passages, and those jobs (`compile_eq_batch`).
-/

namespace Docwright.Template

open Edit Replay Style

def namedRanges (text : String) : Option NamedStyle → List Ranged
  | some style => [.whole text (.named style.paragraphStyle)]
  | none => []

def characterRanges (text : String) (f : TextFormat) : List Ranged :=
  match f.textStyle? with
  | some style => [.whole text (.characters style style.mask)]
  | none => []

def lineRange (text : String) (f : ParagraphFormat) : Ranged :=
  .whole text (.lines f.fields (maskOf f.fields))

def alignmentRanges (text : String) : Option TextAlignment → List Ranged
  | some a => [lineRange text { alignment := some a }]
  | none => []

def Title.passage (t : Title) : Passage :=
  let text := t.text ++ "\n\n"
  .text text (.whole text (.named (t.format.namedStyle.getD .title).paragraphStyle) ::
    characterRanges text t.format)

def headingPassage (s : Section) : Passage :=
  let text := s.heading ++ "\n"
  .text text [.whole text (.named (s.style.getD .heading2).paragraphStyle)]

def textPassage (text : String) (f : TextFormat) : Passage :=
  .text text (namedRanges text f.namedStyle ++ characterRanges text f ++
    alignmentRanges text f.alignment)

def listPassage (kind : ListKind) (items : List String) (indent : Int) : Passage :=
  let text := String.join (items.map (· ++ "\n"))
  .text text (.whole text (.list kind.preset) ::
    if 0 < indent then [lineRange text (.indented indent)] else [])

def Element.passage : Element → Passage
  | .text content f => textPassage (content ++ "\n") f
  | .list kind items indent => listPassage kind items indent
  | .table rows columns _ _ => .table rows columns
  | .pageBreak => .pageBreak
  | .rule => .text Builder.ruleText []

def Element.job? : Element → Option Table.Job
  | .table rows columns headers data => some { rows, columns, headers, data }
  | _ => none

def Section.passages (s : Section) : List Passage :=
  headingPassage s :: s.content.map Element.passage

def Section.jobs (s : Section) : List Table.Job :=
  s.content.filterMap Element.job?

def passages (t : Template) : List Passage :=
  (t.title.map Title.passage).toList ++ t.sections.flatMap Section.passages ++
    t.elements.map Element.passage

def jobs (t : Template) : List Table.Job :=
  t.sections.flatMap Section.jobs ++ t.elements.filterMap Element.job?

variable (b : Builder) (text : String) (ranges : List Ranged)

theorem styleCharacters_extend (f : TextFormat) :
    styleCharacters (extend b [.text text ranges]) b.cursor (b.insertText text).cursor f =
      .ok (extend b [.text text (ranges ++ characterRanges text f)]) := by
  unfold styleCharacters characterRanges
  cases f.textStyle? with
  | none => simp only [List.append_nil]
  | some style =>
    have stop : (b.insertText text).cursor = b.cursor + (0 : Nat) + Text.width text := by
      rw [cursor_insertText, Int.natCast_zero, Int.add_zero]
    exact styleText_extend b text ranges 0 (Text.width text) style (Int.add_zero b.cursor).symm stop

theorem formatLines_extend (f : ParagraphFormat) :
    formatLines (extend b [.text text ranges]) b.cursor (b.insertText text).cursor f =
      .ok (extend b [.text text (ranges ++ [lineRange text f])]) :=
  formatParagraphs_extend b text ranges f.fields (maskOf f.fields)

theorem alignLines_extend (a : Option TextAlignment) :
    (match a with
      | some a => formatLines (extend b [.text text ranges]) b.cursor (b.insertText text).cursor
          { alignment := some a }
      | none => .ok (extend b [.text text ranges])) =
      Except.ok (extend b [.text text (ranges ++ alignmentRanges text a)]) := by
  cases a with
  | none => simp only [alignmentRanges, List.append_nil]
  | some a => exact formatLines_extend b text ranges { alignment := some a }

theorem writeText_eq_extend (f : TextFormat) :
    writeText b text f = .ok (extend b [textPassage text f]) := by
  have styled := styleCharacters_extend b text (namedRanges text f.namedStyle) f
  have aligned := alignLines_extend b text
    (namedRanges text f.namedStyle ++ characterRanges text f) f.alignment
  unfold writeText textPassage
  cases hs : f.namedStyle with
  | none =>
    rw [hs] at styled aligned
    simp only [namedRanges, List.nil_append] at styled aligned ⊢
    rw [← insertText_eq_extend] at styled
    exact (bind_of_ok styled _).trans aligned
  | some style =>
    rw [hs] at styled aligned
    have named := nameParagraphs_extend b text [] style.paragraphStyle
    rw [← insertText_eq_extend] at named
    refine (bind_of_ok named _).trans ?_
    exact (bind_of_ok styled _).trans aligned

theorem writeList_eq_extend (kind : ListKind) (items : List String) (indent : Int) :
    writeList b kind items indent = .ok (extend b [listPassage kind items indent]) := by
  let text := String.join (items.map (· ++ "\n"))
  have listed := createList_extend b text [] kind.preset
  rw [← insertText_eq_extend] at listed
  refine (bind_of_ok listed _).trans ?_
  unfold listPassage
  by_cases deep : 0 < indent
  · simp only [deep, ↓reduceIte]
    exact formatLines_extend b text [.whole text (.list kind.preset)] (.indented indent)
  · simp only [deep, ↓reduceIte]
    rfl

theorem writeTitle_eq_extend (t : Title) : writeTitle b t = .ok (extend b [t.passage]) := by
  have named := nameParagraphs_extend b (t.text ++ "\n\n") []
    (t.format.namedStyle.getD .title).paragraphStyle
  rw [← insertText_eq_extend] at named
  exact (bind_of_ok named _).trans (styleCharacters_extend b _ _ t.format)

theorem writeHeading_eq_extend (s : Section) : writeHeading b s = .ok (extend b [headingPassage s]) := by
  have named := nameParagraphs_extend b (s.heading ++ "\n") [] (s.style.getD .heading2).paragraphStyle
  rwa [← insertText_eq_extend] at named

/-- From `p` to `q`, passages have been written and jobs have been noted. -/
structure Advances (p q : Progress) (ps : List Passage) (js : List Table.Job) : Prop where
  builder : q.builder = extend p.builder ps
  jobs : q.jobs = p.jobs ++ js

theorem Advances.trans {p q r : Progress} {ps qs : List Passage} {js ks : List Table.Job}
    (h : Advances p q ps js) (h' : Advances q r qs ks) : Advances p r (ps ++ qs) (js ++ ks) where
  builder := by rw [h'.builder, h.builder, extend_append]
  jobs := by rw [h'.jobs, h.jobs, List.append_assoc]

theorem passTable_keeps (p : Progress) : p.passTable.builder = p.builder ∧ p.passTable.jobs = p.jobs := by
  unfold Progress.passTable
  split <;> exact ⟨rfl, rfl⟩

theorem writeContent_eq_extend {e : Element} (h : e.job? = none) :
    writeContent b e = .ok (extend b [e.passage]) := by
  cases e with
  | text content f => exact writeText_eq_extend b (content ++ "\n") f
  | list kind items indent => exact writeList_eq_extend b kind items indent
  | table => cases h
  | pageBreak => exact congrArg Except.ok (insertPageBreak_eq_extend b)
  | rule => exact congrArg Except.ok (insertText_eq_extend b _)

theorem writeElement_advances_of_no_job (p : Progress) {e : Element} (h : e.job? = none) :
    ∃ q, writeElement p e = .ok q ∧ Advances p q [e.passage] [] := by
  obtain ⟨builder, jobs⟩ := passTable_keeps p
  have unfolded : writeElement p e = (writeContent p.passTable.builder e >>= fun b' =>
      pure { p.passTable with builder := b' }) := by
    cases e with
    | table => cases h
    | text | list | pageBreak | rule => rfl
  refine ⟨_, unfolded.trans (bind_of_ok (writeContent_eq_extend _ h) _), ?_, ?_⟩
  · exact congrArg (extend · _) builder
  · exact jobs.trans (List.append_nil _).symm

theorem writeElement_advances (p : Progress) {e : Element} (h : e.Proper) :
    ∃ q, writeElement p e = .ok q ∧ Advances p q [e.passage] e.job?.toList := by
  cases e with
  | table rows columns headers data =>
    have created := insertTable_eq_extend p.builder h.1 h.2
    exact ⟨_, bind_of_ok created _, rfl, rfl⟩
  | text | list | pageBreak | rule => exact writeElement_advances_of_no_job p rfl

theorem foldlM_advances {α : Type} {f : Progress → α → Building Progress} {ps : α → List Passage}
    {js : α → List Table.Job} {xs : List α}
    (h : ∀ p, ∀ x ∈ xs, ∃ q, f p x = .ok q ∧ Advances p q (ps x) (js x)) (p : Progress) :
    ∃ q, xs.foldlM f p = .ok q ∧ Advances p q (xs.flatMap ps) (xs.flatMap js) := by
  induction xs generalizing p with
  | nil => exact ⟨p, rfl, (extend_nil _).symm, (List.append_nil _).symm⟩
  | cons x xs ih =>
    obtain ⟨q, hq, first⟩ := h p x List.mem_cons_self
    obtain ⟨r, hr, rest⟩ := ih (fun p' y hy => h p' y (List.mem_cons_of_mem _ hy)) q
    refine ⟨r, ?_, first.trans rest⟩
    rw [List.foldlM_cons, hq]
    exact hr

theorem writeElements_advances {es : List Element} (h : ∀ e ∈ es, e.Proper) (p : Progress) :
    ∃ q, es.foldlM writeElement p = .ok q ∧
      Advances p q (es.map Element.passage) (es.filterMap Element.job?) := by
  have step : ∀ p', ∀ e ∈ es, ∃ q, writeElement p' e = .ok q ∧
      Advances p' q [e.passage] e.job?.toList :=
    fun p' e he => writeElement_advances p' (h e he)
  rw [List.map_eq_flatMap, List.filterMap_eq_flatMap_toList]
  exact foldlM_advances step p

theorem writeSection_advances (p : Progress) {s : Section} (h : ∀ e ∈ s.content, e.Proper) :
    ∃ q, writeSection p s = .ok q ∧ Advances p q s.passages s.jobs := by
  obtain ⟨builder, jobs⟩ := passTable_keeps p
  have headed := writeHeading_eq_extend p.passTable.builder s
  let next : Progress :=
    { p.passTable with builder := extend p.passTable.builder [headingPassage s] }
  have first : Advances p next [headingPassage s] [] :=
    ⟨congrArg (extend · _) builder, jobs.trans (List.append_nil _).symm⟩
  obtain ⟨q, hq, rest⟩ := writeElements_advances h next
  exact ⟨q, (bind_of_ok headed _).trans hq, first.trans rest⟩

theorem writeBody_advances {t : Template} (h : Proper t) (p : Progress) :
    ∃ q, (t.sections.foldlM writeSection p >>= t.elements.foldlM writeElement) = .ok q ∧
      Advances p q (t.sections.flatMap Section.passages ++ t.elements.map Element.passage) (jobs t) := by
  have step : ∀ p, ∀ s ∈ t.sections, ∃ q, writeSection p s = .ok q ∧
      Advances p q s.passages s.jobs :=
    fun p s hs => writeSection_advances p (h.1 s hs)
  obtain ⟨q, sections, hq⟩ := foldlM_advances step p
  obtain ⟨r, elements, hr⟩ := writeElements_advances h.2 q
  exact ⟨r, (bind_of_ok sections _).trans elements, hq.trans hr⟩

theorem compile_eq_batch {t : Template} (h : Proper t) {start : Int} (first : 1 ≤ start) :
    ∃ warnings, t.compile start = .ok ⟨batch start (passages t), jobs t, warnings⟩ := by
  have begun : Builder.start start = .ok ⟨start, []⟩ := if_neg (by omega)
  let titled := extend ⟨start, []⟩ (t.title.map Title.passage).toList
  obtain ⟨q, body, written⟩ := writeBody_advances h { builder := titled }
  have operations : q.builder.operations = batch start (passages t) := by
    rw [written.builder, ← extend_append, ← List.append_assoc]
    rfl
  have noted : q.jobs = jobs t := by rw [written.jobs]; rfl
  have finished : t.compile start =
      (t.sections.foldlM writeSection { builder := titled } >>= t.elements.foldlM writeElement >>=
        fun done => pure ⟨done.builder.operations, done.jobs, done.warnings⟩) := by
    unfold Template.compile
    rw [bind_assoc]
    refine (bind_of_ok begun _).trans ?_
    cases ht : t.title with
    | none =>
      simp only [titled, ht, Option.map_none, Option.toList_none, extend_nil]
      rfl
    | some title =>
      simp only [titled, ht]
      exact bind_of_ok (writeTitle_eq_extend ⟨start, []⟩ title) _
  refine ⟨q.warnings, ?_⟩
  rw [finished, ← operations, ← noted]
  exact bind_of_ok body _

theorem whole_namedRanges (style : Option NamedStyle) :
    ∀ r ∈ namedRanges text style, IsWhole text r := by
  cases style with
  | none => exact List.forall_mem_nil _
  | some style => exact fun r hr => ⟨_, List.mem_singleton.mp hr⟩

theorem whole_characterRanges (f : TextFormat) :
    ∀ r ∈ characterRanges text f, IsWhole text r := by
  unfold characterRanges
  cases f.textStyle? with
  | none => exact List.forall_mem_nil _
  | some style => exact fun r hr => ⟨_, List.mem_singleton.mp hr⟩

theorem whole_alignmentRanges (a : Option TextAlignment) :
    ∀ r ∈ alignmentRanges text a, IsWhole text r := by
  cases a with
  | none => exact List.forall_mem_nil _
  | some a => exact fun r hr => ⟨_, List.mem_singleton.mp hr⟩

theorem whole_textPassage (nonempty : text ≠ "") (f : TextFormat) : (textPassage text f).Whole := by
  refine ⟨nonempty, fun r hr => ?_⟩
  rcases List.mem_append.mp hr with hr | hr
  · rcases List.mem_append.mp hr with hr | hr
    · exact whole_namedRanges text _ r hr
    · exact whole_characterRanges text f r hr
  · exact whole_alignmentRanges text _ r hr

theorem whole_listPassage (kind : ListKind) {items : List String} (h : items ≠ []) (indent : Int) :
    (listPassage kind items indent).Whole := by
  refine ⟨Text.join_ne h fun _ _ => Text.append_ne (by decide), fun r hr => ?_⟩
  rcases List.mem_cons.mp hr with rfl | hr
  · exact ⟨_, rfl⟩
  · split at hr
    · exact ⟨_, List.mem_singleton.mp hr⟩
    · cases hr

theorem Title.whole_passage (t : Title) : t.passage.Whole := by
  refine ⟨Text.append_ne (by decide), fun r hr => ?_⟩
  rcases List.mem_cons.mp hr with rfl | hr
  · exact ⟨_, rfl⟩
  · exact whole_characterRanges _ t.format r hr

theorem whole_headingPassage (s : Section) : (headingPassage s).Whole :=
  ⟨Text.append_ne (by decide), fun _ hr => ⟨_, List.mem_singleton.mp hr⟩⟩

theorem Element.whole_passage {e : Element} (h : e.Proper) : e.passage.Whole := by
  cases e with
  | text content f => exact whole_textPassage _ (Text.append_ne (by decide)) f
  | list kind items indent => exact whole_listPassage kind h.1 indent
  | table | pageBreak => trivial
  | rule => exact ⟨by decide, List.forall_mem_nil _⟩

theorem whole_passages {t : Template} (h : Proper t) : ∀ p ∈ passages t, p.Whole := by
  intro p hp
  rcases List.mem_append.mp hp with hp | hp
  · rcases List.mem_append.mp hp with hp | hp
    · obtain ⟨title, _, rfl⟩ := Option.map_eq_some_iff.mp (Option.mem_toList.mp hp)
      exact title.whole_passage
    · obtain ⟨s, hs, hp⟩ := List.mem_flatMap.mp hp
      rcases List.mem_cons.mp hp with rfl | hp
      · exact whole_headingPassage s
      · obtain ⟨e, he, rfl⟩ := List.mem_map.mp hp
        exact e.whole_passage (h.1 s hs e he)
  · obtain ⟨e, he, rfl⟩ := List.mem_map.mp hp
    exact e.whole_passage (h.2 e he)

theorem fits_passages {t : Template} (h : Proper t) : ∀ p ∈ passages t, p.Fits :=
  fun p hp => (whole_passages h p hp).fits

end Docwright.Template
