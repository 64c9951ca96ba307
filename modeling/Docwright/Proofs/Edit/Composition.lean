import Docwright.Proofs.Markdown.Placement
import Docwright.Proofs.Replay.Shift
import Docwright.Proofs.Template.Batch

namespace Docwright.Markdown

open Edit Replay

/-- What a block holds that means nothing by itself. A block of HTML holds no other. -/
def held? : Block (List Inline) → Option Document
  | .quote children => some children
  | .html _ => some []
  | _ => none

/-- The second document is the first one with such a block replaced by what it holds. The block
stands in no list. -/
inductive Unwraps : Document → Document → Prop where
  | here {block : Block (List Inline)} {children : Document} (front back : Document)
    (held : held? block = some children) :
    Unwraps (front ++ block :: back) (front ++ children ++ back)
  | inside {children children' : Document} (front back : Document)
    (unwraps : Unwraps children children') :
    Unwraps (front ++ .quote children :: back) (front ++ .quote children' :: back)

variable {font : String}

theorem allPassages_append (d e : Document) :
    allPassages font (d ++ e) = allPassages font d ++ allPassages font e := by
  induction d with
  | nil => rfl
  | cons block rest ih => rw [List.cons_append, allPassages, ih, allPassages, List.append_assoc]

theorem passages_of_held {block : Block (List Inline)} {children : Document}
    (h : held? block = some children) : passages font block = allPassages font children := by
  cases block with
  | quote | html =>
    cases h
    rfl
  | heading | paragraph | list | code | rule => cases h

theorem allPassages_of_unwraps {d e : Document} (h : Unwraps d e) :
    allPassages font d = allPassages font e := by
  induction h with
  | here front back held =>
    rw [allPassages_append, allPassages, passages_of_held held, allPassages_append,
      allPassages_append, List.append_assoc]
  | inside front back _ ih =>
    rw [allPassages_append, allPassages_append, allPassages, allPassages, passages, passages, ih]

theorem compile_of_unwraps (start : Int) {d e : Document} (h : Unwraps d e) :
    d.compile font start = e.compile font start := by
  unfold Document.compile
  simp only [writeBlocks_eq_extend, allPassages_of_unwraps h]

theorem compile_append {start : Int} (first : 1 ≤ start) (d e : Document) :
    ∃ front back, d.compile font start = .ok front ∧ e.compile font 1 = .ok back ∧
      (d ++ e).compile font start = .ok (front ++ back.map (Operation.shifted
        (start - 1 + Text.width (String.join (insertedTexts front))))) := by
  have texts : ∀ p ∈ allPassages font d, p.IsText := fun p hp => (sound_allPassages font d p hp).1
  refine ⟨_, _, compile_eq_batch font first d, compile_eq_batch font (by omega) e, ?_⟩
  rw [compile_eq_batch font first, allPassages_append, batch_append_shifted,
    insertedTexts_batch start texts, totalWidth_texts texts]

end Docwright.Markdown

namespace Docwright.Template

open Edit Replay Checked

/-- The elements of a template that is accepted and has no others, no title and no sections. -/
def AreAccepted (es : List Element) : Prop :=
  ∃ given, Template.ofJson given = .ok ⟨none, [], es⟩

theorem exists_itemsFrom {α : Type} {read : Json → Checked α} {as : List α}
    (h : ∀ a ∈ as, ∃ v, read v = .ok a) (position : Nat) :
    ∃ vs, itemsFrom read position vs = .ok as := by
  induction as generalizing position with
  | nil => exact ⟨[], rfl⟩
  | cons a as ih =>
    obtain ⟨v, first⟩ := h a List.mem_cons_self
    obtain ⟨vs, rest⟩ := ih (fun a' ha => h a' (List.mem_cons_of_mem _ ha)) (position + 1)
    refine ⟨v :: vs, ?_⟩
    rw [itemsFrom, first, rest]
    rfl

/-- Elements that can each be read are accepted together. -/
theorem areAccepted_iff {es : List Element} :
    AreAccepted es ↔ ∀ e ∈ es, ∃ v, readElement v = .ok e := by
  constructor
  · rintro ⟨given, h⟩
    obtain ⟨v, read⟩ := exists_readTemplate h
    exact (partsRead_of_readTemplate read).elements
  · intro h
    obtain ⟨vs, read⟩ := exists_itemsFrom h 0
    have elements : optional [("elements", .arr vs)] "elements" [] (readList readElement) = .ok es :=
      optional_eq_ok_iff.mpr (.inr ⟨.arr vs, rfl, read⟩)
    refine ⟨.obj [("elements", .arr vs)], ?_⟩
    simp only [Template.ofJson, pure_bind, readTemplate, readObject, elements]
    rfl

theorem AreAccepted.append {es fs : List Element} (h : AreAccepted es) (h' : AreAccepted fs) :
    AreAccepted (es ++ fs) := by
  rw [areAccepted_iff] at h h' ⊢
  exact List.forall_mem_append.mpr ⟨h, h'⟩

theorem AreAccepted.proper {es : List Element} (h : AreAccepted es) : Proper ⟨none, [], es⟩ := by
  obtain ⟨given, h⟩ := h
  exact proper_of_ofJson h

theorem compile_append {start : Int} (first : 1 ≤ start) {es fs : List Element}
    (accepted : AreAccepted es) (accepted' : AreAccepted fs) : ∃ front back whole,
      Template.compile ⟨none, [], es⟩ start = .ok front ∧
      Template.compile ⟨none, [], fs⟩ 1 = .ok back ∧
      Template.compile ⟨none, [], es ++ fs⟩ start = .ok whole ∧
      whole.operations = front.operations ++ back.operations.map (Operation.shifted
        (start - 1 + advance front.operations)) ∧
      whole.jobs = front.jobs ++ back.jobs := by
  obtain ⟨_, front⟩ := compile_eq_batch accepted.proper first
  obtain ⟨_, back⟩ := compile_eq_batch accepted'.proper (Int.le_refl 1)
  obtain ⟨_, whole⟩ := compile_eq_batch (accepted.append accepted').proper first
  refine ⟨_, _, _, front, back, whole, ?_, List.filterMap_append⟩
  simp only [passages, Option.map_none, Option.toList_none, List.flatMap_nil, List.nil_append,
    List.map_append, batch_append_shifted, advance_batch]

end Docwright.Template

namespace Docwright.Edit

open Replay

/-- Documents and templates are compiled part by part, wherever they go. A part behind another one
gives the edits that it gives alone, shifted by what the other one has written, and its tables behind
those of the other one. A container that means nothing by itself, and stands in no list, may be
replaced by what it holds. -/
theorem compiled_by_parts (font : String) (start : Int) (first : 1 ≤ start) :
    (∀ d e : Markdown.Document, ∃ front back,
      d.compile font start = .ok front ∧ e.compile font 1 = .ok back ∧
      (d ++ e).compile font start = .ok (front ++ back.map (Operation.shifted
        (start - 1 + Text.width (String.join (insertedTexts front)))))) ∧
    (∀ d e : Markdown.Document, Markdown.Unwraps d e →
      d.compile font start = e.compile font start) ∧
    ∀ es fs : List Template.Element, Template.AreAccepted es → Template.AreAccepted fs →
      Template.AreAccepted (es ++ fs) ∧ ∃ front back whole,
        Template.compile ⟨none, [], es⟩ start = .ok front ∧
        Template.compile ⟨none, [], fs⟩ 1 = .ok back ∧
        Template.compile ⟨none, [], es ++ fs⟩ start = .ok whole ∧
        whole.operations = front.operations ++ back.operations.map (Operation.shifted
          (start - 1 + advance front.operations)) ∧
        whole.jobs = front.jobs ++ back.jobs :=
  ⟨Markdown.compile_append first, fun _ _ => Markdown.compile_of_unwraps start,
    fun _ _ accepted accepted' =>
      ⟨accepted.append accepted', Template.compile_append first accepted accepted'⟩⟩

/-- What `quoted` holds, with no quote around it. -/
def unquoted : Markdown.Document :=
  [.heading 1 [.text "a𝔸", .strong [.text "b"]],
    .list true [[.paragraph [.text "c"]], [.paragraph [.text "d"]]], .code "e\n"]

/-- A text, a page break and a table. -/
def opening : List Template.Element :=
  [.text "f" {}, .pageBreak, .table 1 2 ["g"] []]

theorem opening_compiled_by_parts :
    Markdown.quoted.compile "Mono" 3 = unquoted.compile "Mono" 3 ∧
    ∃ front back whole, Template.compile ⟨none, [], opening⟩ 3 = .ok front ∧
      Template.compile ⟨none, [], opening⟩ 1 = .ok back ∧
      Template.compile ⟨none, [], opening ++ opening⟩ 3 = .ok whole ∧
      whole.operations = front.operations ++ back.operations.map (Operation.shifted 6) ∧
      whole.jobs.length = 2 := by
  have unwraps : Markdown.Unwraps ([] ++ .quote unquoted :: []) ([] ++ unquoted ++ []) :=
    .here [] [] rfl
  have accepted : Template.AreAccepted opening :=
    ⟨.obj [("elements", .arr [.obj [("type", .str "text"), ("text", .str "f")],
      .obj [("type", .str "pagebreak")], .obj [("type", .str "table"), ("rows", .num (.int 1)),
        ("columns", .num (.int 2)), ("headers", .arr [.str "g"])]])], by with_unfolding_all rfl⟩
  obtain ⟨_, same, parts⟩ := compiled_by_parts "Mono" 3 (by decide)
  obtain ⟨_, front, back, whole, compiled, compiled', together, operations, jobs⟩ :=
    parts opening opening accepted accepted
  cases compiled
  cases compiled'
  refine ⟨same _ _ unwraps, _, _, whole, rfl, rfl, together, operations, ?_⟩
  rw [jobs]
  rfl

end Docwright.Edit
