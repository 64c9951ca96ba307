import Docwright.Proofs.Template.Accepted
import Mathlib.Algebra.Order.Ring.Nat

/-!
The grammar of templates, stated on values alone: which members an object may have and has to have,
and what each of them may be. A value that is no text is accepted if and only if it is in the grammar
(`accepted_iff_isTemplate`).
-/

namespace Docwright.Template

open Style

section

variable (v : Json) (name : String) (p : Json → Prop)

/-- An object with no members but these. -/
def IsObject (names : List String) : Prop :=
  ∃ members, v = .obj members ∧ ∀ m ∈ members, m.1 ∈ names

def May : Prop :=
  ∀ w, v.get? name = some w → p w

def Must : Prop :=
  ∃ w, v.get? name = some w ∧ p w

def IsList : Prop :=
  ∃ items, v = .arr items ∧ ∀ w ∈ items, p w

end

def IsText (p : String → Prop) (v : Json) : Prop :=
  ∃ s, v = .str s ∧ p s

def anyText : String → Prop :=
  fun _ => True

/-- A truth value, zero or one, or one of the usual words in any case. -/
def IsTruth : Json → Prop
  | .bool _ => True
  | .num (.int n) => n = 0 ∨ n = 1
  | .num (.float x) => x == 0.0 ∨ x == 1.0
  | .str s => s.map Char.toLower ∈
    ["0", "f", "n", "no", "off", "false", "1", "t", "y", "on", "yes", "true"]
  | _ => False

/-- The double of these parts is the whole number `n`, and fits 64 bits. -/
def IsWhole64 (n : Int) : Decimal.Parts → Prop
  | .finite negative b =>
    b.mantissa * 2 ^ b.exponent.toNat = n.natAbs * 2 ^ (-b.exponent).toNat ∧ n.natAbs < 2 ^ 63 ∧
      if negative then n ≤ 0 else 0 ≤ n
  | _ => False

/-- The integer that a value stands for: an integer, a whole double, a truth value or a text of
digits, with no more of them than can be read. -/
def Denotes (n : Int) : Json → Prop
  | .num (.int m) => m = n
  | .num (.float x) => IsWhole64 n (Decimal.Parts.ofFloat x)
  | .bool b => (if b then 1 else 0) = n
  | .str s => textInt? s = some n ∧ n.natAbs < 10 ^ Number.maxDigits
  | _ => False

def IsInteger (p : Int → Prop) (v : Json) : Prop :=
  ∃ n, Denotes n v ∧ p n

/-- Empty, or one of these. -/
def EmptyOr (names : List String) (s : String) : Prop :=
  s = "" ∨ s ∈ names

structure IsFormat (v : Json) : Prop where
  object : IsObject v ["bold", "italic", "underline", "strikethrough", "font_size", "font_family",
    "color", "bg_color", "named_style", "alignment"]
  flags : ∀ name ∈ ["bold", "italic", "underline", "strikethrough"], May v name IsTruth
  size : May v "font_size" (IsInteger fun n => n = 0 ∨ 8 ≤ n ∧ n ≤ 72)
  family : May v "font_family" (IsText anyText)
  colors : ∀ name ∈ ["color", "bg_color"],
    May v name (IsText fun s => s = "" ∨ (Color.ofString? s).isSome)
  namedStyle : May v "named_style" (IsText (EmptyOr Refusal.styleNames))
  alignment : May v "alignment" (IsText (EmptyOr Refusal.alignmentNames))

structure IsTitle (v : Json) : Prop where
  object : IsObject v ["text", "style"]
  text : Must v "text" (IsText anyText)
  style : May v "style" IsFormat

def HasKind (kind : String) (v : Json) : Prop :=
  Must v "type" (· = .str kind)

def IsVisible (s : String) : Prop :=
  Text.strip s ≠ ""

inductive IsElement (v : Json) : Prop where
  | text (kind : HasKind "text" v) (object : IsObject v ["type", "text", "style"])
    (content : May v "text" (IsText anyText)) (style : May v "style" IsFormat)
  | list (kind : HasKind "list" v) (object : IsObject v ["type", "list_type", "items", "indent"])
    (listKind : Must v "list_type" (IsText (· ∈ Refusal.listKindNames)))
    (items : Must v "items" fun w => IsList w (IsText IsVisible) ∧ w.items ≠ [])
    (indent : May v "indent" (IsInteger fun n => 0 ≤ n ∧ n ≤ 9))
  | table (kind : HasKind "table" v)
    (object : IsObject v ["type", "rows", "columns", "headers", "table_data"])
    (rows : Must v "rows" (IsInteger (1 ≤ ·))) (columns : Must v "columns" (IsInteger (1 ≤ ·)))
    (headers : May v "headers" (IsList · (IsText anyText)))
    (data : May v "table_data" (IsList · (IsList · (IsText anyText))))
  | pageBreak (kind : HasKind "pagebreak" v) (object : IsObject v ["type"])
  | rule (kind : HasKind "hr" v) (object : IsObject v ["type"])

structure IsSection (v : Json) : Prop where
  object : IsObject v ["heading", "style", "content"]
  heading : Must v "heading" (IsText IsVisible)
  style : May v "style" (IsText (EmptyOr Refusal.styleNames))
  content : May v "content" (IsList · IsElement)

structure IsTemplate (v : Json) : Prop where
  object : IsObject v ["title", "sections", "elements"]
  title : May v "title" fun w => w = .null ∨ IsTitle w
  sections : May v "sections" (IsList · IsSection)
  elements : May v "elements" (IsList · IsElement)

theorem isObject_iff {members : List (String × Json)} {names : List String} :
    IsObject (.obj members) names ↔ ∀ m ∈ members, m.1 ∈ names := by
  simp [IsObject]

theorem mem_of_lookup {members : List (String × Json)} {name : String} {w : Json}
    (h : Json.lookup name members = some w) : (name, w) ∈ members := by
  induction members with
  | nil => cases h
  | cons m rest ih =>
    rw [Json.lookup] at h
    split at h
    · next same =>
      cases h
      rw [← same]
      exact List.mem_cons_self
    · exact List.mem_cons_of_mem _ (ih h)

theorem IsObject.may {v : Json} {names : List String} (h : IsObject v names) {name : String}
    (absent : name ∉ names) (p : Json → Prop) : May v name p := by
  obtain ⟨members, rfl, known⟩ := h
  intro w found
  exact absurd (known _ (mem_of_lookup found)) absent

theorem Must.may {v : Json} {name : String} {p q : Json → Prop} (h : Must v name p)
    (weaken : ∀ w, p w → q w) : May v name q := by
  obtain ⟨w, found, holds⟩ := h
  intro w' found'
  cases found.symm.trans found'
  exact weaken w holds

theorem IsText.any {p : String → Prop} {v : Json} (h : IsText p v) : IsText anyText v := by
  obtain ⟨s, rfl, _⟩ := h
  exact ⟨s, rfl, trivial⟩

theorem IsInteger.any {p : Int → Prop} {v : Json} (h : IsInteger p v) :
    IsInteger (fun _ => True) v := by
  obtain ⟨n, denotes, _⟩ := h
  exact ⟨n, denotes, trivial⟩

theorem IsList.mono {p q : Json → Prop} {v : Json} (h : IsList v p) (weaken : ∀ w, p w → q w) :
    IsList v q := by
  obtain ⟨items, rfl, all⟩ := h
  exact ⟨items, rfl, fun w hw => weaken w (all w hw)⟩

/-- A check that finds nothing. -/
def Passes {α : Type} (c : Checked α) : Prop :=
  ∃ a, c = .ok a

open Checked

section

variable {α β : Type}

theorem passes_ok (a : α) : Passes (.ok a) := ⟨a, rfl⟩

theorem not_passes_refused (findings : List Finding) : ¬Passes (.refused findings : Checked α) := by
  rintro ⟨a, h⟩
  cases h

theorem passes_seq {f : Checked (α → β)} {x : Checked α} : Passes (f <*> x) ↔ Passes f ∧ Passes x := by
  constructor
  · rintro ⟨b, h⟩
    obtain ⟨g, a, hg, ha, _⟩ := seq_eq_ok h
    exact ⟨⟨g, hg⟩, ⟨a, ha⟩⟩
  · rintro ⟨⟨g, rfl⟩, ⟨a, rfl⟩⟩
    exact ⟨g a, rfl⟩

theorem passes_map {g : α → β} {x : Checked α} : Passes (g <$> x) ↔ Passes x := by
  constructor
  · rintro ⟨b, h⟩
    obtain ⟨a, ha, _⟩ := map_eq_ok h
    exact ⟨a, ha⟩
  · rintro ⟨a, rfl⟩
    exact ⟨g a, rfl⟩

theorem passes_andThen {c : Checked α} {f : α → Checked β} :
    Passes (c.andThen f) ↔ ∃ a, c = .ok a ∧ Passes (f a) := by
  constructor
  · rintro ⟨b, h⟩
    obtain ⟨a, ha, hb⟩ := andThen_eq_ok h
    exact ⟨a, ha, b, hb⟩
  · rintro ⟨a, rfl, b, hb⟩
    exact ⟨b, hb⟩

theorem passes_ofRefusal {e : Except Refusal α} : Passes (ofRefusal e) ↔ ∃ a, e = .ok a := by
  simp only [Passes, ofRefusal_eq_ok_iff]

theorem passes_under {name : String} {c : Checked α} : Passes (c.under name) ↔ Passes c := by
  simp only [Passes, under_eq_ok_iff]

variable {members : List (String × Json)} {name : String} {read : Json → Checked α}

theorem required_eq_ok_iff {a : α} : required members name read = .ok a ↔
    ∃ w, Json.lookup name members = some w ∧ read w = .ok a := by
  unfold required
  cases Json.lookup name members with
  | none => simp [under_eq_ok_iff, fail]
  | some w => simp [under_eq_ok_iff]

theorem passes_optional {default : α} : Passes (optional members name default read) ↔
    May (.obj members) name fun w => Passes (read w) := by
  unfold optional May
  cases h : Json.lookup name members with
  | none => simp [Json.get?, Json.members, h, passes_ok]
  | some w => simp [Json.get?, Json.members, h, passes_under]

theorem passes_required : Passes (required members name read) ↔
    Must (.obj members) name fun w => Passes (read w) := by
  simp only [Passes, required_eq_ok_iff, Must, Json.get?, Json.members]
  constructor
  · rintro ⟨a, w, hw, ha⟩
    exact ⟨w, hw, a, ha⟩
  · rintro ⟨w, hw, a, ha⟩
    exact ⟨a, w, hw, ha⟩

theorem passes_onlyNames {names : List String} :
    Passes (onlyNames names members) ↔ ∀ m ∈ members, m.1 ∈ names := by
  induction members with
  | nil => exact ⟨fun _ => List.forall_mem_nil _, fun _ => passes_ok ()⟩
  | cons m rest ih =>
    obtain ⟨n, w⟩ := m
    rw [onlyNames, List.forall_mem_cons]
    split
    · next known => rw [ih, and_iff_right (by simpa using known)]
    · next unknown =>
      rw [passes_seq, passes_map, passes_under]
      constructor
      · rintro ⟨refused, _⟩
        exact absurd refused (not_passes_refused _)
      · rintro ⟨known, _⟩
        exact absurd (by simpa using known) unknown

theorem readObject_eq_ok_iff {kind : String} {names : List String}
    {read : List (String × Json) → Checked α} {v : Json} {a : α} :
    readObject kind names read v = .ok a ↔
      ∃ members, v = .obj members ∧ read members = .ok a ∧ ∀ m ∈ members, m.1 ∈ names := by
  simp only [← passes_onlyNames]
  constructor
  · intro h
    cases v with
    | obj members =>
      obtain ⟨_, u, opened, known, rfl⟩ := seq_eq_ok h
      obtain ⟨a, ha, rfl⟩ := map_eq_ok opened
      exact ⟨members, rfl, ha, u, known⟩
    | null | bool | num | str | arr => cases h
  · rintro ⟨members, rfl, ha, u, known⟩
    rw [readObject, ha, known]
    rfl

theorem passes_readObject {kind : String} {names : List String}
    {read : List (String × Json) → Checked α} {v : Json} :
    Passes (readObject kind names read v) ↔
      ∃ members, v = .obj members ∧ Passes (read members) ∧ ∀ m ∈ members, m.1 ∈ names := by
  simp only [Passes, readObject_eq_ok_iff]
  constructor
  · rintro ⟨a, members, hv, ha, known⟩
    exact ⟨members, hv, ⟨a, ha⟩, known⟩
  · rintro ⟨members, hv, ⟨a, ha⟩, known⟩
    exact ⟨a, members, hv, ha, known⟩

theorem passes_itemsFrom {position : Nat} {items : List Json} :
    Passes (itemsFrom read position items) ↔ ∀ w ∈ items, Passes (read w) := by
  induction items generalizing position with
  | nil => exact ⟨fun _ => List.forall_mem_nil _, fun _ => passes_ok []⟩
  | cons w rest ih =>
    rw [itemsFrom, passes_seq, passes_map, passes_under, ih, List.forall_mem_cons]

theorem passes_readList {v : Json} :
    Passes (readList read v) ↔ IsList v fun w => Passes (read w) := by
  cases v with
  | arr items =>
    rw [readList, passes_itemsFrom]
    simp [IsList]
  | null | bool | num | str | obj =>
    constructor
    · intro h
      exact absurd h (not_passes_refused _)
    · rintro ⟨items, h, _⟩
      cases h

end

section

variable {α : Type} {members : List (String × Json)} {name : String} {default a : α}
  {read : Json → Checked α} {p : α → Prop} {q : Json → Prop}

/-- A rule that an absent member keeps as well. -/
theorem may_iff (h : optional members name default read = .ok a)
    (same : ∀ w, read w = .ok a → (q w ↔ p a)) (holds : p default) :
    May (.obj members) name q ↔ p a := by
  rcases optional_eq_ok_iff.mp h with ⟨absent, rfl⟩ | ⟨w, found, hw⟩
  · simp [May, Json.get?, Json.members, absent, holds]
  · simp [May, Json.get?, Json.members, found, same w hw]

/-- A rule that an absent member breaks. -/
theorem must_iff (h : optional members name default read = .ok a)
    (same : ∀ w, read w = .ok a → (q w ↔ p a)) (breaks : ¬p default) :
    Must (.obj members) name q ↔ p a := by
  rcases optional_eq_ok_iff.mp h with ⟨absent, rfl⟩ | ⟨w, found, hw⟩
  · simp [Must, Json.get?, Json.members, absent, breaks]
  · simp [Must, Json.get?, Json.members, found, same w hw]

end

end Docwright.Template
