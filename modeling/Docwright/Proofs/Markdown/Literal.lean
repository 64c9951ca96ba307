import Docwright.Markdown.Document
import Docwright.Proofs.Markdown.Nodes

namespace Docwright.Markdown

mutual

/-- The text of a node, all HTML shown as it stands. -/
def Inline.literal : Inline → String
  | .text s | .code s | .html s => s
  | .softBreak => " "
  | .hardBreak => "\n"
  | .emphasis cs | .strong cs | .strike cs | .link _ cs | .image _ cs => literalOf cs

def literalOf : List Inline → String
  | [] => ""
  | i :: is => i.literal ++ literalOf is

end

/-- The nodes that the author wrote. In front of them, the content of a task has its box. -/
def authored : Bool → List Inline → List Occurrence
  | true, .html box :: content => occurrencesIn [.html box] content
  | _, content => occurrencesIn [] content

/-- The text that content is to have. HTML in the place of a box may be one. -/
def InlineRules.intended (rules : InlineRules) : Bool → List Inline → String
  | true, .html box :: content => rules.htmlText box ++ literalOf content
  | _, content => literalOf content

/-- HTML that holds the mark of a box. -/
def Occurrence.Marked (o : Occurrence) : Prop :=
  ∃ s, o.node = .html s ∧ checkboxMark.toList <:+: s.toList

theorem occursIn_iff_infix (part cs : List Char) : occursIn part cs = true ↔ part <:+: cs := by
  induction cs with
  | nil => simp [occursIn]
  | cons c cs ih => rw [occursIn, Bool.or_eq_true, List.isPrefixOf_iff_prefix, ih, List.infix_cons_iff]

theorem isCheckboxHtml_iff (s : String) :
    isCheckboxHtml s = true ↔ checkboxMark.toList <:+: s.toList :=
  occursIn_iff_infix _ _

/-- Two texts put together of parts that are no longer than those of the other. -/
theorem append_eq_iff_of_length_le {a b a' b' : String} (ha : a.length ≤ a'.length)
    (hb : b.length ≤ b'.length) : a ++ b = a' ++ b' ↔ a = a' ∧ b = b' := by
  constructor
  · intro same
    have total : a.length + b.length = a'.length + b'.length := by
      rw [← String.length_append, ← String.length_append, same]
    have lists : a.toList ++ b.toList = a'.toList ++ b'.toList := by
      rw [← String.toList_append, ← String.toList_append, same]
    have parts := List.append_inj lists (by simp only [String.length_toList]; omega)
    exact ⟨String.toList_inj.mp parts.1, String.toList_inj.mp parts.2⟩
  · rintro ⟨rfl, rfl⟩
    rfl

namespace InlineRules

variable (rules : InlineRules)

/-- The box that marked HTML shows as. -/
def box (html : String) : String :=
  if rules.keepCheckboxes then
    if occursIn checkedMark.toList html.toList then "☑" else "☐"
  else ""

theorem htmlText_of_marked {s : String} (marked : checkboxMark.toList <:+: s.toList) :
    rules.htmlText s = rules.box s := by
  rw [htmlText, if_pos ((isCheckboxHtml_iff s).mpr marked), box]
  cases rules.keepCheckboxes <;> rfl

theorem htmlText_of_unmarked {s : String} (unmarked : ¬checkboxMark.toList <:+: s.toList) :
    rules.htmlText s = s := by
  rw [htmlText, if_neg (mt (isCheckboxHtml_iff s).mp unmarked)]

theorem length_box_le (s : String) : (rules.box s).length ≤ 1 := by
  unfold box
  repeat' split
  all_goals decide

/-- The mark is longer than any box. -/
theorem length_htmlText_lt {s : String} (marked : checkboxMark.toList <:+: s.toList) :
    (rules.htmlText s).length < s.length := by
  have short := rules.length_box_le s
  have long : checkboxMark.toList.length ≤ s.toList.length := marked.length_le
  have mark : 1 < checkboxMark.toList.length := by decide
  rw [htmlText_of_marked rules marked, ← String.length_toList (s := s)]
  omega

theorem htmlText_eq_iff (s : String) :
    rules.htmlText s = s ↔ ¬checkboxMark.toList <:+: s.toList := by
  constructor
  · intro same marked
    have shorter := rules.length_htmlText_lt marked
    rw [same] at shorter
    exact Nat.lt_irrefl _ shorter
  · exact rules.htmlText_of_unmarked

theorem length_htmlText_le (s : String) : (rules.htmlText s).length ≤ s.length := by
  by_cases marked : checkboxMark.toList <:+: s.toList
  · exact Nat.le_of_lt (rules.length_htmlText_lt marked)
  · exact Nat.le_of_eq (congrArg String.length (rules.htmlText_of_unmarked marked))

/-- A text is no longer than the literal one, and the same only without marked HTML. -/
structure Renders (text literal : String) (os : List Occurrence) : Prop where
  length_le : text.length ≤ literal.length
  literal_iff : text = literal ↔ ∀ o ∈ os, ¬o.Marked

theorem Renders.append {a b a' b' : String} {os os' : List Occurrence} (first : Renders a a' os)
    (rest : Renders b b' os') : Renders (a ++ b) (a' ++ b') (os ++ os') where
  length_le := by
    have := first.length_le
    have := rest.length_le
    rw [String.length_append, String.length_append]
    omega
  literal_iff := by
    -- neither part can make up for what the other one has lost
    rw [append_eq_iff_of_length_le first.length_le rest.length_le, first.literal_iff,
      rest.literal_iff, List.forall_mem_append]

/-- A node around others adds nothing to what they show. -/
theorem Renders.around {text literal : String} {os : List Occurrence} (inner : Renders text literal os)
    {o : Occurrence} (unmarked : ¬o.Marked) : Renders text literal (os ++ [o]) where
  length_le := inner.length_le
  literal_iff := by
    rw [inner.literal_iff, List.forall_mem_append]
    simp [unmarked]

theorem Renders.leaf {text : String} {o : Occurrence} (unmarked : ¬o.Marked) : Renders text text [o] where
  length_le := Nat.le_refl _
  literal_iff := by simp [unmarked]

theorem Renders.html (front : List Inline) (s : String) :
    Renders (rules.htmlText s) s [⟨front, .html s⟩] where
  length_le := rules.length_htmlText_le s
  literal_iff := by
    rw [htmlText_eq_iff]
    simp [Occurrence.Marked]

mutual

theorem renders_node (front : List Inline) (i : Inline) :
    Renders (rules.textOf [i]) i.literal (i.occurrences front) := by
  cases i with
  | text | softBreak | hardBreak | code =>
    rw [textOf_singleton]
    exact .leaf (by simp [Occurrence.Marked])
  | html s =>
    rw [textOf_singleton]
    exact .html rules front s
  | emphasis cs | strong cs | strike cs | image _ cs =>
    rw [textOf_singleton]
    exact .around (renders_all front cs) (by simp [Occurrence.Marked])
  | link href cs =>
    rw [textOf_link]
    exact .around (renders_all front cs) (by simp [Occurrence.Marked])

theorem renders_all (front is : List Inline) :
    Renders (rules.textOf is) (literalOf is) (occurrencesIn front is) := by
  cases is with
  | nil => exact ⟨Nat.le_refl _, by simp [occurrencesIn, textOf, styled, all, literalOf]⟩
  | cons i is =>
    rw [textOf_cons, ← textOf_singleton]
    exact (renders_node front i).append (renders_all (front ++ [i]) is)

end

theorem authored_subset (startsItem : Bool) (content : List Inline) :
    authored startsItem content ⊆ occurrencesIn [] content := by
  unfold authored
  split
  · intro o behind
    exact List.mem_cons_of_mem _ behind
  · exact List.Subset.refl _

theorem textOf_eq_intended_iff (startsItem : Bool) (content : List Inline) :
    rules.textOf content = rules.intended startsItem content ↔
      ∀ o ∈ authored startsItem content, ¬o.Marked := by
  unfold intended authored
  split
  · next box content =>
    rw [← (rules.renders_all [.html box] content).literal_iff, textOf_cons]
    exact String.append_right_inj _
  · exact (rules.renders_all [] _).literal_iff

end InlineRules

/-- HTML of the author's stands in the text where it stands in the content, as it is, unless it holds
the mark of a box. Then it shows as a box, or not at all where boxes are dropped. -/
theorem literal_iff_unmarked (rules : InlineRules) (startsItem : Bool) (content : List Inline) :
    (∀ o ∈ authored startsItem content, ∀ s, o.node = .html s →
      rules.Shown (rules.textOf content) o ∧ (rules.textOf [o.node] = s ↔ ¬o.Marked) ∧
      (o.Marked → rules.textOf [o.node] = rules.box s)) ∧
    (rules.textOf content = rules.intended startsItem content ↔
      ∀ o ∈ authored startsItem content, ¬o.Marked) := by
  refine ⟨?_, rules.textOf_eq_intended_iff startsItem content⟩
  rintro ⟨front, node⟩ written s rfl
  have marked_iff : Occurrence.Marked ⟨front, .html s⟩ ↔ checkboxMark.toList <:+: s.toList := by
    simp [Occurrence.Marked]
  have alone : rules.textOf [.html s] = rules.htmlText s := rules.textOf_singleton _
  refine ⟨rules.shown_all [] content _ (InlineRules.authored_subset startsItem content written), ?_, ?_⟩
  · rw [alone, marked_iff]
    exact rules.htmlText_eq_iff s
  · intro marked
    rw [alone]
    exact rules.htmlText_of_marked (marked_iff.mp marked)

/-- Rules for code in a font of equal widths. -/
def plainRules (keepCheckboxes : Bool) : InlineRules :=
  { codeFont := "Courier New", keepCheckboxes }

/-- A task that is done, with HTML around a word. -/
def underlinedTask : List Inline :=
  [.html checkedBox, .text " a ", .emphasis [.html "<u>", .text "b", .html "</u>"]]

theorem underlinedTask_literal :
    ⟨[.html checkedBox, .text " a "], .html "<u>"⟩ ∈ authored true underlinedTask ∧
    (plainRules true).textOf [.html "<u>"] = "<u>" ∧
    (plainRules true).textOf underlinedTask = "☑ a <u>b</u>" := by
  obtain ⟨each, whole⟩ := literal_iff_unmarked (plainRules true) true underlinedTask
  have written : ⟨[.html checkedBox, .text " a "], .html "<u>"⟩ ∈ authored true underlinedTask := by
    simp [authored, underlinedTask, occurrencesIn, Inline.occurrences]
  have unmarked : ∀ o ∈ authored true underlinedTask, ¬o.Marked := by
    simp [authored, underlinedTask, occurrencesIn, Inline.occurrences, Occurrence.Marked,
      ← occursIn_iff_infix]
    decide
  refine ⟨written, ?_, ?_⟩
  · exact ((each _ written _ rfl).2.1).mpr (unmarked _ written)
  · rw [whole.mpr unmarked]
    rfl

/-- A paragraph with a tag that holds the mark of a box. -/
def taggedWord : List Inline :=
  [.text "a ", .html "<b class=\"task-list-item-checkbox\">", .text "c", .html "</b>"]

/-- The tag is the author's, and it is not shown as it stands. -/
theorem taggedWord_not_literal :
    ⟨[.text "a "], .html "<b class=\"task-list-item-checkbox\">"⟩ ∈ authored false taggedWord ∧
    (plainRules true).textOf taggedWord = "a ☐c</b>" ∧
    (plainRules false).textOf taggedWord = "a c</b>" := by
  refine ⟨?_, rfl, rfl⟩
  simp [authored, taggedWord, occurrencesIn, Inline.occurrences]

end Docwright.Markdown
