import Docwright.Proofs.Markdown.Placement
import Docwright.Proofs.Replay.Lines
import Docwright.Proofs.Replay.Origins
import Docwright.Proofs.Template.Batch
import Docwright.Proofs.Writer.Faithful

namespace Docwright.Edit

open Replay Style

/-- What edits with lists are compiled from. -/
inductive Source where
  | template (t : Template)
  | list (kind : ListKind) (items : List String) (indent : Int)
  | markdown (font : String) (d : Markdown.Document)

namespace Source

/-- A template has been accepted, and so have the arguments of a list. -/
def Accepted : Source → Prop
  | .template t => ∃ v, Template.ofJson v = .ok t
  | .list kind items indent => ∃ name, Writer.readList name items indent = .ok kind
  | .markdown .. => True

def compile (start : Int) : Source → Except Refusal (List Operation)
  | .template t => (t.compile start).map Template.Compiled.operations
  | .list kind items indent => Writer.editsAt start fun b => Template.writeList b kind items indent
  | .markdown font d => d.compile font start

end Source

/-- The items of an element, if it is a list. -/
def itemsOf? : Template.Element → Option (List String)
  | .list _ items _ => some items
  | _ => none

/-- The text of an item. In a list of tasks it has no box, and starts without blanks. -/
def itemText (font : String) (tasks : Bool) (item : Markdown.Item) : String :=
  let text := item.text { codeFont := font, keepCheckboxes := !tasks }
  if tasks then Text.stripLeft text else text

mutual

/-- The items of the lists of a block that are written: those that stand in no other list. -/
def blockLists (font : String) : Markdown.Block (List Markdown.Inline) → List (List String)
  | .list _ items =>
    if items.isEmpty then [] else [items.map (itemText font (items.all Markdown.Item.isTask))]
  | .quote children => allLists font children
  | .heading .. | .paragraph _ | .code _ | .rule | .html _ => []

def allLists (font : String) : List (Markdown.Block (List Markdown.Inline)) → List (List String)
  | [] => []
  | block :: rest => blockLists font block ++ allLists font rest

end

/-- The items of each list, in order. -/
def Source.lists : Source → List (List String)
  | .template t => t.sections.flatMap (·.content.filterMap itemsOf?) ++ t.elements.filterMap itemsOf?
  | .list _ items _ => [items]
  | .markdown font d => allLists font d

def isList : Format → Bool
  | .list _ => true
  | _ => false

/-- The edits of a batch that make lists. -/
def listEdits (ops : List Operation) : List RangeEdit :=
  (rangeEdits 0 ops).filter fun e => isList e.format

/-- An edit makes a list of what stands on the lines of its items. -/
structure MakesList (final : Body) (e : RangeEdit) (items : List String) : Prop where
  covered : contents (slice final e.span) = textContents (onLines items)
  count : (paragraphs (contents (slice final e.span))).length =
    items.length + lineEnds (String.join items)
  count_iff : (paragraphs (contents (slice final e.span))).length = items.length ↔
    ∀ item ∈ items, '\n' ∉ item.toList
  paragraphs_iff : paragraphs (contents (slice final e.span)) = items.map textContents ↔
    ∀ item ∈ items, '\n' ∉ item.toList

theorem makesList_of_contents {final : Body} {e : RangeEdit} {items : List String}
    (covered : contents (slice final e.span) = textContents (onLines items)) :
    MakesList final e items where
  covered := covered
  count := by rw [covered, length_paragraphs_onLines]
  count_iff := by rw [covered, length_paragraphs_onLines_iff]
  paragraphs_iff := by rw [covered, paragraphs_onLines_iff]

/-- A target is the list of some items. -/
structure OfItems (t : Target) (items : List String) : Prop where
  text : t.text = onLines items
  whole : IsWhole t.text t.range

/-- The lists that passages ask for have these items. -/
def Asks (ps : List Passage) (lists : List (List String)) : Prop :=
  ∀ offset, List.Forall₂ OfItems ((targets offset ps).filter fun t => isList t.range.format) lists

theorem asks_nil : Asks [] [] :=
  fun _ => .nil

theorem Asks.append {ps qs : List Passage} {ls ms : List (List String)} (h : Asks ps ls)
    (h' : Asks qs ms) : Asks (ps ++ qs) (ls ++ ms) := by
  intro offset
  rw [targets_append, List.filter_append]
  exact List.rel_append (h offset) (h' _)

theorem asks_flatMap {α : Type} {f : α → List Passage} {g : α → List (List String)} {xs : List α}
    (h : ∀ x ∈ xs, Asks (f x) (g x)) : Asks (xs.flatMap f) (xs.flatMap g) := by
  induction xs with
  | nil => exact asks_nil
  | cons x xs ih =>
    rw [List.flatMap_cons, List.flatMap_cons]
    exact (h x List.mem_cons_self).append (ih fun y hy => h y (List.mem_cons_of_mem _ hy))

/-- Passages without lists. -/
theorem asks_of_text {content : String} {ranges : List Ranged}
    (plain : ∀ r ∈ ranges, isList r.format = false) : Asks [.text content ranges] [] := by
  intro offset
  have none : (targets offset [.text content ranges]).filter (fun t => isList t.range.format) = [] := by
    rw [targets, targets, List.append_nil, Passage.targets, List.filter_eq_nil_iff]
    intro t ht
    obtain ⟨r, hr, rfl⟩ := List.mem_map.mp ht
    rw [plain r hr]
    exact Bool.false_ne_true
  rw [none]
  exact .nil

/-- A list with formats of its lines. -/
theorem asks_list {items : List String} (preset : String) {ranges : List Ranged}
    (plain : ∀ r ∈ ranges, isList r.format = false) :
    Asks [.text (onLines items) (.whole (onLines items) (.list preset) :: ranges)] [items] := by
  intro offset
  have rest : Asks [.text (onLines items) ranges] [] := asks_of_text plain
  have rest := rest offset
  rw [List.forall₂_nil_right_iff, targets, targets, List.append_nil, Passage.targets] at rest
  rw [targets, targets, List.append_nil, Passage.targets, List.map_cons, List.filter_cons_of_pos rfl,
    rest]
  exact .cons ⟨rfl, _, rfl⟩ .nil

theorem plain_characterRanges (text : String) (f : Template.TextFormat) :
    ∀ r ∈ Template.characterRanges text f, isList r.format = false := by
  unfold Template.characterRanges
  split
  · exact List.forall_mem_singleton.mpr rfl
  · exact List.forall_mem_nil _

theorem plain_textRanges (text : String) (f : Template.TextFormat) :
    ∀ r ∈ Template.namedRanges text f.namedStyle ++ Template.characterRanges text f ++
      Template.alignmentRanges text f.alignment, isList r.format = false := by
  intro r hr
  rcases List.mem_append.mp hr with hr | aligned
  · rcases List.mem_append.mp hr with named | styled
    · cases style : f.namedStyle with
      | none =>
        rw [style] at named
        cases named
      | some n =>
        rw [style] at named
        rw [List.mem_singleton.mp named]
        rfl
    · exact plain_characterRanges text f r styled
  · cases alignment : f.alignment with
    | none =>
      rw [alignment] at aligned
      cases aligned
    | some a =>
      rw [alignment] at aligned
      rw [List.mem_singleton.mp aligned]
      rfl

theorem asks_listPassage (kind : ListKind) (items : List String) (indent : Int) :
    Asks [Template.listPassage kind items indent] [items] := by
  refine asks_list kind.preset fun r hr => ?_
  split at hr
  · rw [List.mem_singleton.mp hr]
    rfl
  · cases hr

theorem asks_element (e : Template.Element) : Asks [e.passage] (itemsOf? e).toList := by
  cases e with
  | text content f => exact asks_of_text (plain_textRanges _ f)
  | list kind items indent => exact asks_listPassage kind items indent
  | table => exact fun _ => .nil
  | pageBreak => exact fun _ => .nil
  | rule => exact fun _ => .nil

theorem asks_elements (es : List Template.Element) :
    Asks (es.map Template.Element.passage) (es.filterMap itemsOf?) := by
  rw [List.map_eq_flatMap, List.filterMap_eq_flatMap_toList]
  exact asks_flatMap fun e _ => asks_element e

theorem asks_template (t : Template) : Asks (Template.passages t) (Source.template t).lists := by
  have title : Asks (t.title.map Template.Title.passage).toList [] := by
    cases t.title with
    | none => exact asks_nil
    | some title =>
      refine asks_of_text fun r hr => ?_
      rcases List.mem_cons.mp hr with rfl | styled
      · rfl
      · exact plain_characterRanges _ title.format r styled
  have sections : Asks (t.sections.flatMap Template.Section.passages)
      (t.sections.flatMap (·.content.filterMap itemsOf?)) := by
    refine asks_flatMap fun s _ => ?_
    have heading : Asks [Template.headingPassage s] [] :=
      asks_of_text (List.forall_mem_singleton.mpr rfl)
    exact heading.append (asks_elements s.content)
  exact (title.append sections).append (asks_elements t.elements)

theorem plain_spans (spans : List Markdown.StyledSpan) :
    ∀ r ∈ spans.map Markdown.StyledSpan.ranged, isList r.format = false := by
  intro r hr
  obtain ⟨span, _, rfl⟩ := List.mem_map.mp hr
  rfl

theorem asks_listPassages (font : String) (ordered : Bool) (items : List Markdown.Item) :
    Asks (Markdown.listPassages font ordered items) (blockLists font (.list ordered items)) := by
  unfold Markdown.listPassages blockLists
  split
  · exact asks_nil
  · have lines : Markdown.listText font items =
        onLines (items.map (itemText font (items.all Markdown.Item.isTask))) := by
      rw [onLines, List.map_map]
      rfl
    rw [lines]
    exact asks_list _ (List.forall_mem_nil _)

mutual

theorem asks_passages (font : String) (block : Markdown.Block (List Markdown.Inline)) :
    Asks (Markdown.passages font block) (blockLists font block) := by
  cases block with
  | heading level content =>
    exact asks_of_text (List.forall_mem_cons.mpr ⟨rfl, plain_spans _⟩)
  | paragraph content =>
    rw [Markdown.passages, Markdown.paragraphPassages, blockLists]
    split
    · exact asks_nil
    · exact asks_of_text (plain_spans _)
  | list ordered items => exact asks_listPassages font ordered items
  | code content =>
    rw [Markdown.passages, Markdown.codePassages, blockLists]
    split
    · exact asks_nil
    · have code : Asks [.text content [.whole content (.characters (.ofFont font)
          (TextStyle.ofFont font).mask)]] [] := asks_of_text (List.forall_mem_singleton.mpr rfl)
      have newline : Asks [.text "\n" []] [] := asks_of_text (List.forall_mem_nil _)
      exact code.append newline
  | rule => exact asks_of_text (List.forall_mem_nil _)
  | quote children => exact asks_allPassages font children
  | html => exact asks_nil

theorem asks_allPassages (font : String) (blocks : List (Markdown.Block (List Markdown.Inline))) :
    Asks (Markdown.allPassages font blocks) (allLists font blocks) := by
  cases blocks with
  | nil => exact asks_nil
  | cons block rest => exact (asks_passages font block).append (asks_allPassages font rest)

end

theorem Source.compile_eq_batch {source : Source} (accepted : source.Accepted) {start : Int}
    (first : 1 ≤ start) : ∃ ps, source.compile start = .ok (batch start ps) ∧
      (∀ p ∈ ps, p.Fits) ∧ Asks ps source.lists := by
  cases source with
  | template t =>
    obtain ⟨v, read⟩ := accepted
    have proper := Template.proper_of_ofJson read
    obtain ⟨warnings, compiled⟩ := Template.compile_eq_batch proper first
    refine ⟨Template.passages t, ?_, Template.fits_passages proper, asks_template t⟩
    rw [Source.compile, compiled]
    rfl
  | list kind items indent =>
    obtain ⟨name, read⟩ := accepted
    have whole := Template.whole_listPassage kind (Writer.readList_eq_ok read) indent
    have built := Template.writeList_eq_extend ⟨start, []⟩ kind items indent
    refine ⟨[Template.listPassage kind items indent], ?_, List.forall_mem_singleton.mpr whole.fits,
      asks_listPassage kind items indent⟩
    exact Writer.editsAt_eq first (fun b => Template.writeList b kind items indent) built
  | markdown font d =>
    exact ⟨_, Markdown.compile_eq_batch font first d,
      fun p hp => (Markdown.sound_allPassages font d p hp).2, asks_allPassages font d⟩

theorem forall₂_trans {α β γ : Type} {R : α → β → Prop} {S : β → γ → Prop} {T : α → γ → Prop}
    (step : ∀ a b c, R a b → S b c → T a c) {as : List α} {bs : List β} {cs : List γ}
    (h : List.Forall₂ R as bs) (h' : List.Forall₂ S bs cs) : List.Forall₂ T as cs := by
  induction h generalizing cs with
  | nil =>
    cases h'
    exact .nil
  | cons head _ ih =>
    cases h' with
    | cons head' tail' => exact .cons (step _ _ _ head head') (ih tail')

theorem makesLists_batch (lay : Nat → Layout) {start : Int} {old : List Content} (first : 1 ≤ start)
    (last : start ≤ old.length + 1) {ps : List Passage} (fits : ∀ p ∈ ps, p.Fits)
    {lists : List (List String)} (asks : Asks ps lists) :
    List.Forall₂ (MakesList (outcome lay start ps old)) (listEdits (batch start ps)) lists := by
  have replayed := replay_batch lay first last fits
  have delimited := delimits_batch lay first last fits
  have listed := List.rel_filter (fun e t (h : Delimits _ _ _ _ _ e t) => by
    change isList e.format = true ↔ isList t.range.format = true
    rw [h.format]) delimited
  refine forall₂_trans (fun e t items h own => makesList_of_contents ?_) listed (asks 0)
  obtain ⟨_, _, _, _, covered⟩ :=
    (setsAll_of_delimits (keeps_batch start ps) replayed h own.whole).inserted
  rw [covered, own.text]

/-- What is accepted is compiled, and each list that is to be written is made by one edit, over what
stands on the lines of its items. Its paragraphs are as many as its items if and only if no item has
a line end of its own, and then they are the items; otherwise there is one more for each line end in
an item. -/
theorem items_are_paragraphs_iff (lay : Nat → Layout) {source : Source} (accepted : source.Accepted)
    (old : List Content) (start : Int) (first : 1 ≤ start) (last : start ≤ old.length + 1) :
    ∃ ops final, source.compile start = .ok ops ∧ replay lay ops old = some final ∧
      List.Forall₂ (MakesList final) (listEdits ops) source.lists := by
  obtain ⟨ps, compiled, fits, asks⟩ := source.compile_eq_batch accepted first
  exact ⟨_, _, compiled, replay_batch lay first last fits,
    makesLists_batch lay first last fits asks⟩

/-- A template with nothing but a list. -/
def listOf (items : List String) : Json :=
  .obj [("elements", .arr [.obj [("type", .str "list"), ("list_type", .str "bullet"),
    ("items", .arr (items.map .str))]])]

theorem plain_items_are_paragraphs : ∃ t ops final e,
    Template.ofJson (listOf ["a", "b𝔸"]) = .ok t ∧ (Source.template t).compile 2 = .ok ops ∧
    replay Markdown.plainLayout ops [.unit 72, lineEnd] = some final ∧ listEdits ops = [e] ∧
    paragraphs (contents (slice final e.span)) = [textContents "a", textContents "b𝔸"] := by
  obtain ⟨t, read, lists⟩ : ∃ t, Template.ofJson (listOf ["a", "b𝔸"]) = .ok t ∧
      (Source.template t).lists = [["a", "b𝔸"]] := ⟨_, by with_unfolding_all rfl, rfl⟩
  have accepted : (Source.template t).Accepted := ⟨_, read⟩
  obtain ⟨ops, final, compiled, replayed, made⟩ := items_are_paragraphs_iff Markdown.plainLayout accepted
    [.unit 72, lineEnd] 2 (by decide) (by decide)
  rw [lists] at made
  obtain ⟨e, es, made, none, edits⟩ := List.forall₂_cons_right_iff.mp made
  rw [List.forall₂_nil_right_iff] at none
  subst none
  exact ⟨t, ops, final, e, read, compiled, replayed, edits, made.paragraphs_iff.mpr (by decide)⟩

/-- A line end in an item makes two paragraphs of it. -/
theorem broken_item_two_paragraphs : ∃ t ops final e,
    Template.ofJson (listOf ["a\nb"]) = .ok t ∧ (Source.template t).lists = [["a\nb"]] ∧
    (Source.template t).compile 1 = .ok ops ∧ replay Markdown.plainLayout ops [lineEnd] = some final ∧
    listEdits ops = [e] ∧ e.span.start = 1 ∧ e.span.stop = 5 ∧
    paragraphs (contents (slice final e.span)) = [textContents "a", textContents "b"] :=
  ⟨_, _, _, _, by with_unfolding_all rfl, rfl, rfl, rfl, rfl, rfl, rfl, rfl⟩

end Docwright.Edit
