import Docwright.Proofs.Markdown.Nodes
import Docwright.Proofs.Markdown.Placement
import Docwright.Proofs.Text.Woven

namespace Docwright.Markdown

open Edit Replay Text

mutual

/-- The words of a node. A checkbox is none. -/
def Inline.words : Inline → List String
  | .text s | .code s => [s]
  | .softBreak | .hardBreak => []
  | .html s => if isCheckboxHtml s then [] else [s]
  | .emphasis cs | .strong cs | .strike cs | .link _ cs | .image _ cs => wordsOf cs

def wordsOf : List Inline → List String
  | [] => []
  | i :: is => i.words ++ wordsOf is

end

/-- Which words count besides those of headings, paragraphs, code and the paragraphs of items:
those of all else that stands in an item, and those of blocks of HTML. -/
structure Extent where
  inItems : Bool
  html : Bool

namespace Extent

def everything : Extent :=
  ⟨true, true⟩

def withHtml : Extent :=
  ⟨false, true⟩

def withoutHtml : Extent :=
  ⟨false, false⟩

end Extent

mutual

/-- The words of a block. The text of an item is stripped on the left in a list of tasks. -/
def blockWords (e : Extent) : Block (List Inline) → List String
  | .heading _ content | .paragraph content => wordsOf content
  | .list _ items => itemsWords e (items.all Item.isTask) items
  | .code content => [content]
  | .rule => []
  | .quote children => allWords e children
  | .html content => if e.html then [content] else []

def allWords (e : Extent) : List (Block (List Inline)) → List String
  | [] => []
  | block :: rest => blockWords e block ++ allWords e rest

def itemsWords (e : Extent) (tasks : Bool) : List Item → List String
  | [] => []
  | item :: items =>
    let words := if e.inItems then allWords e item else item.paragraphs.flatMap wordsOf
    (if tasks then trimLeft words else words) ++ itemsWords e tasks items

end

mutual

/-- Whether a list stands inside of an item of another one. -/
def blockNests (inItem : Bool) : Block (List Inline) → Bool
  | .list _ items => inItem || itemsNest items
  | .quote children => anyNests inItem children
  | .heading .. | .paragraph _ | .code _ | .rule | .html _ => false

def anyNests (inItem : Bool) : List (Block (List Inline)) → Bool
  | [] => false
  | block :: rest => blockNests inItem block || anyNests inItem rest

def itemsNest : List Item → Bool
  | [] => false
  | item :: items => anyNests true item || itemsNest items

end

def spaces : List String :=
  [" ", "\n"]

def boxes : List String :=
  ["☐", "☑"]

/-- What may stand between the words of a document. -/
def separators : List String :=
  spaces ++ boxes ++ [Builder.ruleText]

/-- What may stand between the words of inline content. -/
def InlineRules.gaps (rules : InlineRules) : List String :=
  if rules.keepCheckboxes then spaces ++ boxes else spaces

theorem mem_gaps_of_mem_spaces (rules : InlineRules) {g : String} (h : g ∈ spaces) :
    g ∈ rules.gaps := by
  unfold InlineRules.gaps
  split
  · exact List.mem_append_left _ h
  · exact h

theorem mem_separators_of_mem_gaps {rules : InlineRules} {g : String} (h : g ∈ rules.gaps) :
    g ∈ separators := by
  refine List.mem_append_left _ ?_
  unfold InlineRules.gaps at h
  split at h
  · exact h
  · exact List.mem_append_left _ h

theorem allBlank_of_mem_gaps {rules : InlineRules} (h : rules.keepCheckboxes = false) :
    ∀ g ∈ rules.gaps, allBlank g := by
  rw [InlineRules.gaps, h]
  decide

theorem mem_separators_newline : "\n" ∈ separators := by
  decide

/-! ## Inline content -/

namespace InlineRules

variable (rules : InlineRules)

theorem woven_html (s : String) : Woven rules.gaps (Inline.html s).words (rules.htmlText s) := by
  unfold Inline.words htmlText
  by_cases box : isCheckboxHtml s
  · rw [if_pos box, if_pos box]
    cases kept : rules.keepCheckboxes with
    | false => exact .done
    | true =>
      have known : ∀ g ∈ boxes, g ∈ rules.gaps := fun g hg => by
        rw [gaps, kept]
        exact List.mem_append_right _ hg
      rw [Bool.not_true, if_neg Bool.false_ne_true]
      split
      · exact .ofGap (known _ (by decide))
      · exact .ofGap (known _ (by decide))
  · rw [if_neg box, if_neg box]
    exact .ofWord s

mutual

theorem woven_node (i : Inline) : Woven rules.gaps i.words (rules.textOf [i]) := by
  cases i with
  | text s | code s =>
    rw [textOf_singleton, Inline.words]
    exact .ofWord s
  | softBreak =>
    rw [textOf_singleton, Inline.words]
    exact .ofGap (mem_gaps_of_mem_spaces rules (show " " ∈ spaces by decide))
  | hardBreak =>
    rw [textOf_singleton, Inline.words]
    exact .ofGap (mem_gaps_of_mem_spaces rules (show "\n" ∈ spaces by decide))
  | html s =>
    rw [textOf_singleton]
    exact rules.woven_html s
  | emphasis cs | strong cs | strike cs | image _ cs =>
    rw [textOf_singleton, Inline.words]
    exact woven_textOf cs
  | link href cs =>
    rw [textOf_link, Inline.words]
    exact woven_textOf cs

theorem woven_textOf (content : List Inline) :
    Woven rules.gaps (wordsOf content) (rules.textOf content) := by
  cases content with
  | nil => exact .done
  | cons i is =>
    rw [wordsOf, textOf_cons, ← textOf_singleton]
    exact (woven_node i).append (woven_textOf is)

end

theorem woven_line (content : List Inline) :
    Woven separators (wordsOf content) (rules.textOf content ++ "\n") :=
  ((rules.woven_textOf content).mono fun _ => mem_separators_of_mem_gaps).append_gap
    mem_separators_newline

end InlineRules

/-! ## Lists -/

/-- The words of an item that its line shows. -/
def Item.words (tasks : Bool) (item : Item) : List String :=
  let words := item.paragraphs.flatMap wordsOf
  if tasks then trimLeft words else words

theorem itemsWords_eq_flatMap {e : Extent} (h : e.inItems = false) (tasks : Bool)
    (items : List Item) : itemsWords e tasks items = items.flatMap (Item.words tasks) := by
  induction items with
  | nil => rfl
  | cons item items ih =>
    rw [itemsWords, ih, h, List.flatMap_cons]
    rfl

theorem woven_item (rules : InlineRules) (item : Item) :
    Woven rules.gaps (item.paragraphs.flatMap wordsOf) (item.text rules) :=
  .intercalate (mem_gaps_of_mem_spaces rules (by decide)) _ fun content _ =>
    rules.woven_textOf content

theorem woven_itemLine (font : String) (tasks : Bool) (item : Item) :
    Woven separators (item.words tasks) (item.line font tasks) := by
  have shown := woven_item { codeFont := font, keepCheckboxes := !tasks } item
  refine Woven.append_gap ?_ mem_separators_newline
  cases tasks with
  | false => exact shown.mono fun _ => mem_separators_of_mem_gaps
  | true =>
    -- without boxes only blanks stand between the words, so they go with the blanks in front
    exact (shown.stripLeft (allBlank_of_mem_gaps rfl)).mono fun _ => mem_separators_of_mem_gaps

theorem woven_listText (font : String) (items : List Item) :
    Woven separators (items.flatMap (Item.words (items.all Item.isTask))) (listText font items) :=
  .join items fun item _ => woven_itemLine font _ item

/-! ## Blocks -/

/-- What passages write, in order. -/
def writtenBy (ps : List Passage) : String :=
  String.join (ps.map Passage.content)

theorem writtenBy_append (ps qs : List Passage) :
    writtenBy (ps ++ qs) = writtenBy ps ++ writtenBy qs := by
  rw [writtenBy, List.map_append, String.join_append]
  rfl

theorem writtenBy_singleton (p : Passage) : writtenBy [p] = p.content :=
  (String.join_cons (s := p.content) (l := [])).trans String.append_empty

theorem woven_paragraph (font : String) (content : List Inline) :
    Woven separators (wordsOf content) (writtenBy (paragraphPassages font content)) := by
  let rules : InlineRules := { codeFont := font }
  have shown := rules.woven_textOf content
  by_cases empty : (rules.styled content).text = ""
  · rw [InlineRules.textOf, empty] at shown
    rw [paragraphPassages, if_pos empty]
    exact shown.mono fun _ => mem_separators_of_mem_gaps
  · rw [paragraphPassages, if_neg empty, writtenBy_singleton]
    exact rules.woven_line content

theorem woven_code (font content : String) :
    Woven separators [content] (writtenBy (codePassages font content)) := by
  by_cases empty : content = ""
  · rw [codePassages, if_pos empty, empty]
    exact .ofWord ""
  · rw [codePassages, if_neg empty]
    exact (Woven.ofWord content).append_gap mem_separators_newline

theorem woven_list (font : String) (ordered : Bool) (items : List Item) :
    Woven separators (itemsWords .withoutHtml (items.all Item.isTask) items)
      (writtenBy (listPassages font ordered items)) := by
  rw [itemsWords_eq_flatMap rfl]
  by_cases empty : items = []
  · rw [empty]
    exact .done
  · rw [listPassages, if_neg (mt List.isEmpty_iff.mp empty), writtenBy_singleton]
    exact woven_listText font items

mutual

theorem woven_passages (font : String) (block : Block (List Inline)) :
    Woven separators (blockWords .withoutHtml block) (writtenBy (passages font block)) := by
  cases block with
  | heading level content =>
    rw [blockWords, passages, writtenBy_singleton]
    exact InlineRules.woven_line { codeFont := font } content
  | paragraph content => exact woven_paragraph font content
  | list ordered items => exact woven_list font ordered items
  | code content => exact woven_code font content
  | rule =>
    rw [blockWords, passages, writtenBy_singleton]
    exact .ofGap (by decide)
  | quote children => exact woven_allPassages font children
  | html => exact .done

theorem woven_allPassages (font : String) (blocks : List (Block (List Inline))) :
    Woven separators (allWords .withoutHtml blocks) (writtenBy (allPassages font blocks)) := by
  cases blocks with
  | nil => exact .done
  | cons block rest =>
    rw [allWords, allPassages, writtenBy_append]
    exact (woven_passages font block).append (woven_allPassages font rest)

end

mutual

theorem blockWords_sublist (block : Block (List Inline)) :
    (blockWords .withoutHtml block).Sublist (blockWords .withHtml block) := by
  cases block with
  | heading | paragraph | code | rule => exact .refl _
  | list ordered items =>
    rw [blockWords, blockWords, itemsWords_eq_flatMap rfl, itemsWords_eq_flatMap rfl]
  | quote children => exact allWords_sublist children
  | html content => exact List.nil_sublist _

theorem allWords_sublist (blocks : List (Block (List Inline))) :
    (allWords .withoutHtml blocks).Sublist (allWords .withHtml blocks) := by
  cases blocks with
  | nil => exact .slnil
  | cons block rest => exact (blockWords_sublist block).append (allWords_sublist rest)

end

/-- What compiling a document inserts. -/
theorem join_insertedTexts (start : Int) (font : String) (d : Document) :
    String.join (insertedTexts (batch start (allPassages font d))) = writtenBy (allPassages font d) :=
  congrArg String.join (insertedTexts_batch start fun p hp => (sound_allPassages font d p hp).1)

/-- Compiling a document at a position that there is always succeeds, and the words outside of
items and those of the paragraphs of items are written once and in the order of the document, with
nothing but separators in between. Whether the words of blocks of HTML outside of items are among
them is left open. -/
theorem words_written (font : String) {start : Int} (first : 1 ≤ start) (d : Document) :
    ∃ ops words, d.compile font start = .ok ops ∧
      (allWords .withoutHtml d).Sublist words ∧ words.Sublist (allWords .withHtml d) ∧
      Woven separators words (String.join (insertedTexts ops)) := by
  refine ⟨_, _, compile_eq_batch font first d, .refl _, allWords_sublist d, ?_⟩
  rw [join_insertedTexts]
  exact woven_allPassages font d

/-- A quote with a list of tasks, the second of them in two paragraphs, and a tag in a heading. -/
def chores : Document :=
  [.quote [.list false [[.paragraph [.html openBox, .text " sweep"]],
    [.paragraph [.html checkedBox, .text " ", .strong [.text "mop"]], .paragraph [.code "up"]]]],
    .rule, .heading 2 [.html "<b>", .text "end"]]

theorem chores_written :
    allWords .withHtml chores = ["sweep", "", "mop", "up", "<b>", "end"] ∧
    ∃ ops words, chores.compile "Mono" 1 = .ok ops ∧
      (allWords .withoutHtml chores).Sublist words ∧ words.Sublist (allWords .withHtml chores) ∧
      Woven separators words (String.join (insertedTexts ops)) :=
  ⟨by decide +kernel, words_written "Mono" (by decide) chores⟩

/-- An item with a paragraph and a block of code. -/
def itemWithCode : Document :=
  [.list false [[.paragraph [.text "a"], .code "b\n"]]]

/-- No list stands inside of an item, and yet the code is not written. -/
theorem code_in_item_lost :
    anyNests false itemWithCode = false ∧
    ∃ ops, itemWithCode.compile "Mono" 1 = .ok ops ∧
      ¬Woven separators (allWords .everything itemWithCode) (String.join (insertedTexts ops)) := by
  refine ⟨rfl, _, compile_eq_batch "Mono" (by decide) itemWithCode, fun woven => ?_⟩
  rw [join_insertedTexts] at woven
  have code : "b\n" ∈ allWords .everything itemWithCode := by decide
  have shown := woven.mem_toList code 'b' (by decide)
  exact absurd shown (by decide)

end Docwright.Markdown
