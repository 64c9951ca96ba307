import Docwright.Proofs.Markdown.Spans
import Docwright.Proofs.Text.Pairs
import Mathlib.Data.List.Forall2

namespace Docwright.Markdown

open Style Text

/-- A node, and all that stands in front of it in the document. -/
structure Occurrence where
  front : List Inline
  node : Inline

mutual

/-- The nodes of a tree in post-order, when `front` stands in front of the tree. -/
def Inline.occurrences (front : List Inline) : Inline → List Occurrence
  | .text s => [⟨front, .text s⟩]
  | .softBreak => [⟨front, .softBreak⟩]
  | .hardBreak => [⟨front, .hardBreak⟩]
  | .code s => [⟨front, .code s⟩]
  | .html s => [⟨front, .html s⟩]
  | .emphasis cs => occurrencesIn front cs ++ [⟨front, .emphasis cs⟩]
  | .strong cs => occurrencesIn front cs ++ [⟨front, .strong cs⟩]
  | .strike cs => occurrencesIn front cs ++ [⟨front, .strike cs⟩]
  | .link href cs => occurrencesIn front cs ++ [⟨front, .link href cs⟩]
  | .image href cs => occurrencesIn front cs ++ [⟨front, .image href cs⟩]

def occurrencesIn (front : List Inline) : List Inline → List Occurrence
  | [] => []
  | i :: is => i.occurrences front ++ occurrencesIn (front ++ [i]) is

end

namespace InlineRules

variable (rules : InlineRules)

def textOf (content : List Inline) : String :=
  (rules.styled content).text

/-- The style that a node gives to what it holds. -/
def style? : Inline → Option TextStyle
  | .strong _ => some .boldface
  | .emphasis _ => some .italics
  | .strike _ => some .struck
  | .link href _ => if href = "" then none else some (.ofLink href)
  | .code _ => some (.ofFont rules.codeFont)
  | _ => none

/-- The nodes that carry a style over a text of their own. -/
def styledNodes (content : List Inline) : List Occurrence :=
  (occurrencesIn [] content).filter fun o =>
    (rules.style? o.node).isSome && rules.textOf [o.node] ≠ ""

/-- Where the text of an occurrence stands, if it is to be styled. -/
def span? (o : Occurrence) : Option StyledSpan :=
  if rules.textOf [o.node] = "" then none
  else (rules.style? o.node).map fun style =>
    ⟨width (rules.textOf o.front), width (rules.textOf o.front) + width (rules.textOf [o.node]), style⟩

mutual

theorem text_node (s t : Nat) (i : Inline) : (rules.node s i).text = (rules.node t i).text := by
  cases i with
  | text | softBreak | hardBreak | code | html => rfl
  | emphasis cs | strong cs | strike cs | image _ cs => exact text_all s t cs
  | link href cs =>
    by_cases empty : href = ""
    · simpa only [node, empty, ↓reduceIte] using text_all s t cs
    · simpa only [node, empty, ↓reduceIte, Styled.within] using text_all s t cs

theorem text_all (s t : Nat) (is : List Inline) : (rules.all s is).text = (rules.all t is).text := by
  cases is with
  | nil => rfl
  | cons i is =>
    simp only [all, text_node s t i]
    rw [text_all _ (t + width (rules.node t i).text) is]

end

theorem textOf_cons (i : Inline) (is : List Inline) :
    rules.textOf (i :: is) = (rules.node 0 i).text ++ rules.textOf is := by
  simp only [textOf, styled, all]
  rw [text_all rules _ 0 is]

theorem textOf_singleton (i : Inline) : rules.textOf [i] = (rules.node 0 i).text := by
  rw [textOf_cons]
  exact String.append_empty

theorem textOf_append (a b : List Inline) :
    rules.textOf (a ++ b) = rules.textOf a ++ rules.textOf b := by
  induction a with
  | nil => exact String.empty_append.symm
  | cons i is ih => rw [List.cons_append, textOf_cons, textOf_cons, ih, String.append_assoc]

theorem text_node_eq (start : Nat) (i : Inline) : (rules.node start i).text = rules.textOf [i] := by
  rw [textOf_singleton, text_node rules start 0 i]

theorem textOf_link (href : String) (cs : List Inline) :
    rules.textOf [.link href cs] = rules.textOf cs := by
  rw [textOf_singleton]
  by_cases empty : href = ""
  · simp only [node, empty, ↓reduceIte]
    rfl
  · simp only [node, empty, ↓reduceIte]
    rfl

/-- The span of a node that stands behind `front`. -/
theorem span?_toList (front : List Inline) {i : Inline} {style : TextStyle}
    (h : rules.style? i = some style) :
    (rules.span? ⟨front, i⟩).toList =
      spanOver (width (rules.textOf front)) (rules.textOf [i]) style := by
  by_cases empty : rules.textOf [i] = ""
  · simp only [span?, spanOver, empty, ↓reduceIte, Option.toList_none]
  · simp only [span?, spanOver, empty, ↓reduceIte, h, Option.map_some, Option.toList_some]

theorem span?_eq_none (front : List Inline) {i : Inline} (h : rules.style? i = none) :
    rules.span? ⟨front, i⟩ = none := by
  simp only [span?, h, Option.map_none, ite_self]

theorem filterMap_span?_concat (os : List Occurrence) (o : Occurrence) :
    (os ++ [o]).filterMap rules.span? = os.filterMap rules.span? ++ (rules.span? o).toList := by
  rw [List.filterMap_append]
  cases h : rules.span? o <;> simp [h]

mutual

theorem spans_node (front : List Inline) (i : Inline) :
    (rules.node (width (rules.textOf front)) i).spans = (i.occurrences front).filterMap rules.span? := by
  cases i with
  | text | softBreak | hardBreak | html =>
    rw [Inline.occurrences, List.filterMap_cons_none (rules.span?_eq_none front rfl)]
    rfl
  | code s =>
    rw [Inline.occurrences, ← List.nil_append [_], filterMap_span?_concat,
      span?_toList rules front rfl, textOf_singleton]
    rfl
  | emphasis cs | strong cs | strike cs =>
    rw [Inline.occurrences, filterMap_span?_concat, span?_toList rules front rfl, ← spans_all front cs,
      textOf_singleton, text_node rules 0 (width (rules.textOf front))]
    rfl
  | image href cs =>
    rw [Inline.occurrences, filterMap_span?_concat, span?_eq_none rules front rfl, Option.toList_none,
      List.append_nil, ← spans_all front cs]
    rfl
  | link href cs =>
    rw [Inline.occurrences, filterMap_span?_concat, ← spans_all front cs]
    by_cases empty : href = ""
    · rw [span?_eq_none rules front (by simp only [style?, empty, ↓reduceIte]), Option.toList_none,
        List.append_nil]
      simp only [node, empty, ↓reduceIte]
    · have style : rules.style? (.link href cs) = some (.ofLink href) := by
        simp only [style?, empty, ↓reduceIte]
      rw [span?_toList rules front style, textOf_singleton,
        text_node rules 0 (width (rules.textOf front))]
      simp only [node, empty, ↓reduceIte]
      rfl

theorem spans_all (front is : List Inline) :
    (rules.all (width (rules.textOf front)) is).spans = (occurrencesIn front is).filterMap rules.span? := by
  cases is with
  | nil => rfl
  | cons i is =>
    have next : width (rules.textOf front) +
        width (rules.node (width (rules.textOf front)) i).text = width (rules.textOf (front ++ [i])) := by
      rw [text_node_eq, textOf_append, width_append]
    rw [occurrencesIn, List.filterMap_append, ← spans_node front i, ← spans_all (front ++ [i]) is, ← next]
    rfl

end

/-- An occurrence shows its text behind that of its front. -/
def Shown (whole : String) (o : Occurrence) : Prop :=
  ∃ rest, whole = rules.textOf o.front ++ rules.textOf [o.node] ++ rest

theorem Shown.append {rules : InlineRules} {whole : String} {o : Occurrence}
    (h : rules.Shown whole o) (more : String) : rules.Shown (whole ++ more) o := by
  obtain ⟨rest, rfl⟩ := h
  exact ⟨rest ++ more, String.append_assoc⟩

theorem shown_self (front : List Inline) (i : Inline) :
    rules.Shown (rules.textOf (front ++ [i])) ⟨front, i⟩ :=
  ⟨"", by rw [textOf_append, String.append_empty]⟩

/-- A node that shows what it holds. -/
theorem shown_concat {front cs : List Inline} {i : Inline}
    (inner : ∀ o ∈ occurrencesIn front cs, rules.Shown (rules.textOf (front ++ cs)) o)
    (same : rules.textOf [i] = rules.textOf cs) :
    ∀ o ∈ occurrencesIn front cs ++ [⟨front, i⟩], rules.Shown (rules.textOf (front ++ [i])) o := by
  intro o ho
  rcases List.mem_append.mp ho with deeper | ho
  · rw [textOf_append, same, ← textOf_append]
    exact inner o deeper
  · rw [List.mem_singleton.mp ho]
    exact rules.shown_self front i

mutual

theorem shown_node (front : List Inline) (i : Inline) :
    ∀ o ∈ i.occurrences front, rules.Shown (rules.textOf (front ++ [i])) o := by
  cases i with
  | text | softBreak | hardBreak | code | html =>
    intro o ho
    rw [List.mem_singleton.mp ho]
    exact rules.shown_self front _
  | emphasis cs | strong cs | strike cs | image _ cs =>
    exact rules.shown_concat (shown_all front cs) (textOf_singleton rules _)
  | link href cs => exact rules.shown_concat (shown_all front cs) (textOf_link rules href cs)

theorem shown_all (front is : List Inline) :
    ∀ o ∈ occurrencesIn front is, rules.Shown (rules.textOf (front ++ is)) o := by
  cases is with
  | nil => exact List.forall_mem_nil _
  | cons i is =>
    intro o ho
    rw [List.append_cons]
    rcases List.mem_append.mp ho with here | later
    · rw [textOf_append]
      exact (shown_node front i o here).append _
    · exact shown_all (front ++ [i]) is o later

end

end InlineRules

/-- A span of a text, set over the units of one node: those that stand behind all that precedes the
node. -/
structure Covers (rules : InlineRules) (whole : String) (p : StyledSpan) (o : Occurrence) : Prop where
  style : rules.style? o.node = some p.style
  start : p.start = width (rules.textOf o.front)
  nonempty : p.start < p.stop
  inside : p.stop ≤ width whole
  units : ((Text.units whole).drop p.start).take (p.stop - p.start) = Text.units (rules.textOf [o.node])
  startWhole : ¬SplitsPair (Text.units whole) p.start
  stopWhole : ¬SplitsPair (Text.units whole) p.stop

theorem covers_of_span? {rules : InlineRules} {whole : String} {o : Occurrence} {p : StyledSpan}
    (shown : rules.Shown whole o) (span : rules.span? o = some p) : Covers rules whole p o := by
  by_cases empty : rules.textOf [o.node] = ""
  · simp only [InlineRules.span?, empty, ↓reduceIte, reduceCtorEq] at span
  simp only [InlineRules.span?, empty, ↓reduceIte, Option.map_eq_some_iff] at span
  obtain ⟨style, styled, rfl⟩ := span
  obtain ⟨rest, rfl⟩ := shown
  have positive := width_pos empty
  have skipped : width (rules.textOf o.front) = (units (rules.textOf o.front)).length :=
    (length_units _).symm
  exact {
    style := styled
    start := rfl
    nonempty := by simp only; omega
    inside := by simp only [width_append]; omega
    units := by
      simp only [units_append, List.append_assoc, Nat.add_sub_cancel_left]
      rw [skipped, List.drop_left, ← length_units, List.take_left]
    startWhole := by
      rw [String.append_assoc]
      exact not_splitsPair _ _
    stopWhole := by
      simp only [← width_append]
      exact not_splitsPair _ _ }

theorem styledNodes_iff (rules : InlineRules) (o : Occurrence) :
    (rules.style? o.node).isSome ∧ rules.textOf [o.node] ≠ "" ↔ (rules.span? o).isSome := by
  by_cases empty : rules.textOf [o.node] = ""
  · simp [InlineRules.span?, empty]
  · simp [InlineRules.span?, empty]

theorem forall₂_covers {rules : InlineRules} {whole : String} {os : List Occurrence}
    (shown : ∀ o ∈ os, rules.Shown whole o) :
    List.Forall₂ (Covers rules whole) (os.filterMap rules.span?)
      (os.filter fun o => (rules.style? o.node).isSome && rules.textOf [o.node] ≠ "") := by
  induction os with
  | nil => exact .nil
  | cons o os ih =>
    have tail := ih fun o' h => shown o' (List.mem_cons_of_mem _ h)
    have kept := styledNodes_iff rules o
    cases span : rules.span? o with
    | none =>
      rw [span, Option.isSome_none] at kept
      rw [List.filterMap_cons_none span, List.filter_cons_of_neg (by simpa using kept)]
      exact tail
    | some p =>
      rw [span, Option.isSome_some] at kept
      rw [List.filterMap_cons_some span, List.filter_cons_of_pos (by simpa using kept)]
      exact .cons (covers_of_span? (shown o List.mem_cons_self) span) tail

/-- The spans of inline content are its styled nodes in post-order, each over exactly the units of
the text that the node shows by itself. They lie inside of the text, cut no character in two, and
of any two the earlier one stands in front of the later one or inside of it. -/
theorem spans_cover_styled_nodes (rules : InlineRules) (content : List Inline) :
    List.Forall₂ (Covers rules (rules.styled content).text) (rules.styled content).spans
        (rules.styledNodes content) ∧
      (rules.styled content).spans.Pairwise Precedes := by
  have spans : (rules.styled content).spans = (occurrencesIn [] content).filterMap rules.span? :=
    rules.spans_all [] content
  refine ⟨?_, layered_all rules 0 content⟩
  rw [spans]
  exact forall₂_covers (rules.shown_all [] content)

end Docwright.Markdown
