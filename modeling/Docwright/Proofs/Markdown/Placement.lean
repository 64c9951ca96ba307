import Docwright.Proofs.Markdown.Batch

namespace Docwright.Markdown

open Edit Replay

/-- A passage that writes text, with ranges inside of it. -/
def Sound (p : Passage) : Prop :=
  p.IsText ∧ p.Fits

theorem sound_whole {text : String} (h : text ≠ "") (format : Format) :
    Sound (.text text [.whole text format]) :=
  ⟨h, Passage.Whole.fits ⟨h, fun _ hr => ⟨format, List.mem_singleton.mp hr⟩⟩⟩

/-- Spans of inline content fit into its text with a line break behind it. -/
theorem ranged_fits {font : String} {content : List Inline} {r : Ranged}
    (hr : r ∈ (InlineRules.styled { codeFont := font } content).spans.map StyledSpan.ranged) :
    0 < r.width ∧ r.start + r.width ≤
      Text.width ((InlineRules.styled { codeFont := font } content).text ++ "\n") := by
  obtain ⟨p, hp, rfl⟩ := List.mem_map.mp hr
  have := within_styled _ content p hp
  simp only [StyledSpan.ranged, Text.width_append]
  omega

theorem sound_headingPassage (font : String) (level : Nat) (content : List Inline) :
    Sound (headingPassage font level content) := by
  refine ⟨line_ne _, fun r hr => ?_⟩
  rcases List.mem_cons.mp hr with rfl | hr
  · exact Ranged.whole_fits (line_ne _) _
  · exact ranged_fits hr

theorem sound_paragraphPassages (font : String) (content : List Inline) :
    ∀ p ∈ paragraphPassages font content, Sound p := by
  intro p hp
  by_cases empty : (InlineRules.styled { codeFont := font } content).text = ""
  · simp [paragraphPassages, empty] at hp
  · simp only [paragraphPassages, empty, ↓reduceIte, List.mem_singleton] at hp
    subst hp
    exact ⟨line_ne _, fun r hr => ranged_fits hr⟩

theorem sound_codePassages (font content : String) :
    ∀ p ∈ codePassages font content, Sound p := by
  intro p hp
  by_cases empty : content = ""
  · simp [codePassages, empty] at hp
  · simp only [codePassages, empty, ↓reduceIte, List.mem_cons, List.not_mem_nil, or_false] at hp
    rcases hp with rfl | rfl
    · exact sound_whole empty _
    · exact ⟨show "\n" ≠ "" by decide, List.forall_mem_nil _⟩

theorem sound_listPassages (font : String) (ordered : Bool) (items : List Item) :
    ∀ p ∈ listPassages font ordered items, Sound p := by
  intro p hp
  by_cases empty : items = []
  · simp [listPassages, empty] at hp
  · simp only [listPassages, List.isEmpty_iff, empty, ↓reduceIte, List.mem_singleton] at hp
    subst hp
    exact sound_whole (listText_ne empty) _

theorem sound_allPassages (font : String) (blocks : List (Block (List Inline))) :
    ∀ p ∈ allPassages font blocks, Sound p :=
  OfBlocks.allPassages (P := Sound) {
    heading := sound_headingPassage font
    paragraph := sound_paragraphPassages font
    list := sound_listPassages font
    code := sound_codePassages font
    rule := ⟨show Builder.ruleText ≠ "" by decide, List.forall_mem_nil _⟩ } blocks

theorem compile_eq_batch (font : String) {start : Int} (h : 1 ≤ start) (d : Document) :
    d.compile font start = .ok (batch start (allPassages font d)) := by
  have begun : Builder.start start = .ok ⟨start, []⟩ := if_neg (by omega)
  rw [Document.compile, begun]
  exact congrArg (· >>= fun done => pure done.operations) (writeBlocks_eq_extend font ⟨start, []⟩ d)

/-- Compiling a document at a position that there is always succeeds. The edits put the texts of
its blocks, in order, in front of what was at the position; each range that they set, and there is
one for each that the blocks ask for, covers exactly what it was made for, which the batch has
already inserted. -/
theorem edits_delimit_own_text (font : String) (lay : Nat → Layout) (d : Document)
    (old : List Content) (start : Int) (first : 1 ≤ start) (last : start ≤ old.length + 1) :
    ∃ ops final, d.compile font start = .ok ops ∧ replay lay ops old = some final ∧
      insertedTexts ops = (allPassages font d).map Passage.content ∧
      contents final =
        front old start ++ textContents (String.join (insertedTexts ops)) ++ back old start ∧
      List.Forall₂ (Delimits lay ops old start final) (rangeEdits 0 ops)
        (targets 0 (allPassages font d)) := by
  have texts : ∀ p ∈ allPassages font d, p.IsText := fun p hp => (sound_allPassages font d p hp).1
  have fits : ∀ p ∈ allPassages font d, p.Fits := fun p hp => (sound_allPassages font d p hp).2
  have inserted := insertedTexts_batch start texts
  refine ⟨_, _, compile_eq_batch font first d, replay_batch lay first last fits, inserted, ?_,
    delimits_batch lay first last fits⟩
  simp only [outcome, stack_eq_nil lay 0 texts, List.nil_append, contents_append, contents_before,
    contents_flow 0 texts, inserted]

/-- A quote with a heading, a list and code, one of its characters two units wide. -/
def quoted : Document :=
  [.quote [.heading 1 [.text "a𝔸", .strong [.text "b"]],
    .list true [[.paragraph [.text "c"]], [.paragraph [.text "d"]]], .code "e\n"]]

def plainLayout (_ : Nat) : Layout :=
  ⟨0, []⟩

theorem quoted_edits_delimit_own_text :
    (targets 0 (allPassages "Mono" quoted)).length = 4 ∧
    ∃ ops final, quoted.compile "Mono" 2 = .ok ops ∧
      replay plainLayout ops [.unit 72, .unit 10] = some final ∧
      insertedTexts ops = ["a𝔸b\n", "c\nd\n", "e\n", "\n"] ∧
      contents final = [.unit 72] ++ textContents (String.join (insertedTexts ops)) ++ [.unit 10] ∧
      List.Forall₂ (Delimits plainLayout ops [.unit 72, .unit 10] 2 final) (rangeEdits 0 ops)
        (targets 0 (allPassages "Mono" quoted)) :=
  ⟨rfl, edits_delimit_own_text "Mono" plainLayout quoted [.unit 72, .unit 10] 2 (by decide) (by decide)⟩

end Docwright.Markdown
