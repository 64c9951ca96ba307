import Docwright.Markdown.Styled

namespace Docwright.Markdown

open Style

/-- Every span of a text that starts at `start` lies inside of it. -/
def Within (start : Nat) (s : Styled) : Prop :=
  ∀ p ∈ s.spans, start ≤ p.start ∧ p.start < p.stop ∧ p.stop ≤ start + Text.width s.text

theorem within_of_no_spans (start : Nat) (text : String) : Within start ⟨text, []⟩ := by
  intro p hp
  cases hp

theorem mem_spanOver {start : Nat} {text : String} {style : TextStyle} {p : StyledSpan}
    (hp : p ∈ spanOver start text style) :
    p.start = start ∧ p.start < p.stop ∧ p.stop = start + Text.width text := by
  by_cases empty : text = ""
  · simp [spanOver, empty] at hp
  · have := Text.width_pos empty
    simp only [spanOver, empty, ↓reduceIte, List.mem_singleton] at hp
    subst hp
    simp only [true_and, and_true]
    omega

theorem within_code (start : Nat) (text : String) (style : TextStyle) :
    Within start ⟨text, spanOver start text style⟩ := by
  intro p hp
  obtain ⟨first, order, last⟩ := mem_spanOver hp
  simp only
  omega

theorem Within.within {start : Nat} {s : Styled} (h : Within start s) (style : TextStyle) :
    Within start (s.within start style) := by
  intro p hp
  rcases List.mem_append.mp hp with inner | own
  · exact h p inner
  · obtain ⟨first, order, last⟩ := mem_spanOver own
    simp only [Styled.within]
    omega

theorem Within.append {start : Nat} {s t : Styled} (hs : Within start s)
    (ht : Within (start + Text.width s.text) t) :
    Within start ⟨s.text ++ t.text, s.spans ++ t.spans⟩ := by
  intro p hp
  simp only [Text.width_append]
  rcases List.mem_append.mp hp with left | right
  · have := hs p left
    omega
  · have := ht p right
    omega

mutual

theorem within_node (rules : InlineRules) (start : Nat) (i : Inline) :
    Within start (rules.node start i) := by
  cases i with
  | text s => exact within_of_no_spans start s
  | softBreak | hardBreak | html => exact within_of_no_spans start _
  | code s => exact within_code start s _
  | emphasis cs | strong cs | strike cs => exact (within_all rules start cs).within _
  | link href cs =>
    by_cases empty : href = ""
    · simpa only [InlineRules.node, empty, ↓reduceIte] using within_all rules start cs
    · simpa only [InlineRules.node, empty, ↓reduceIte] using (within_all rules start cs).within _
  | image href cs => exact within_all rules start cs

theorem within_all (rules : InlineRules) (start : Nat) (is : List Inline) :
    Within start (rules.all start is) := by
  cases is with
  | nil => exact within_of_no_spans start ""
  | cons i is =>
    exact (within_node rules start i).append (within_all rules _ is)

end

theorem within_styled (rules : InlineRules) (content : List Inline) :
    Within 0 (rules.styled content) :=
  within_all rules 0 content

/-- The first of two spans stands in front of the second, or inside of it. -/
def Precedes (p q : StyledSpan) : Prop :=
  p.stop ≤ q.start ∨ q.start ≤ p.start ∧ p.stop ≤ q.stop

def Layered (s : Styled) : Prop :=
  s.spans.Pairwise Precedes

theorem layered_spanOver (start : Nat) (text : String) (style : TextStyle) :
    (spanOver start text style).Pairwise Precedes := by
  by_cases empty : text = ""
  · simp only [spanOver, empty, ↓reduceIte, List.Pairwise.nil]
  · simp only [spanOver, empty, ↓reduceIte, List.pairwise_singleton]

/-- A node covers the whole text, and so every span inside of it. -/
theorem Layered.within {start : Nat} {s : Styled} (h : Layered s) (inside : Within start s)
    (style : TextStyle) : Layered (s.within start style) := by
  refine List.pairwise_append.mpr ⟨h, layered_spanOver start s.text style, ?_⟩
  intro p hp q hq
  obtain ⟨first, _, last⟩ := inside p hp
  obtain ⟨start', _, stop'⟩ := mem_spanOver hq
  right
  omega

theorem Layered.append {start : Nat} {s t : Styled} (hs : Layered s) (ht : Layered t)
    (inside : Within start s) (inside' : Within (start + Text.width s.text) t) :
    Layered ⟨s.text ++ t.text, s.spans ++ t.spans⟩ := by
  refine List.pairwise_append.mpr ⟨hs, ht, ?_⟩
  intro p hp q hq
  obtain ⟨_, _, last⟩ := inside p hp
  obtain ⟨first, _, _⟩ := inside' q hq
  left
  omega

mutual

theorem layered_node (rules : InlineRules) (start : Nat) (i : Inline) :
    Layered (rules.node start i) := by
  cases i with
  | text | softBreak | hardBreak | html => exact List.Pairwise.nil
  | code s => exact layered_spanOver start s _
  | emphasis cs | strong cs | strike cs =>
    exact (layered_all rules start cs).within (within_all rules start cs) _
  | link href cs =>
    have inner := layered_all rules start cs
    by_cases empty : href = ""
    · simpa only [InlineRules.node, empty, ↓reduceIte] using inner
    · simpa only [InlineRules.node, empty, ↓reduceIte] using
        inner.within (within_all rules start cs) _
  | image href cs => exact layered_all rules start cs

theorem layered_all (rules : InlineRules) (start : Nat) (is : List Inline) :
    Layered (rules.all start is) := by
  cases is with
  | nil => exact List.Pairwise.nil
  | cons i is =>
    exact (layered_node rules start i).append (layered_all rules _ is)
      (within_node rules start i) (within_all rules _ is)

end

end Docwright.Markdown
