import Docwright.Template.Reader

namespace Docwright.Template

open Style Checked

namespace Checked

variable {α β : Type}

/-- A check that does not refuse without a finding. -/
def Reasoned (c : Checked α) : Prop :=
  c ≠ .refused []

@[simp] theorem reasoned_ok (a : α) : Reasoned (.ok a) :=
  nofun

@[simp] theorem reasoned_fail (message : String) : Reasoned (fail message : Checked α) :=
  nofun

theorem Reasoned.seq {f : Checked (α → β)} {x : Checked α} (hf : Reasoned f)
    (hx : Reasoned x) : Reasoned (f <*> x) := by
  cases f with
  | ok g =>
    cases x with
    | ok a => exact reasoned_ok (g a)
    | refused after =>
      intro h
      cases h
      exact hx rfl
  | refused before =>
    intro h
    apply hf
    cases x with
    | ok a => cases h; rfl
    | refused after =>
      have none : before ++ after = [] := Checked.refused.inj h
      rw [(List.append_eq_nil_iff.mp none).1]

theorem Reasoned.map {g : α → β} {x : Checked α} (hx : Reasoned x) :
    Reasoned (g <$> x) :=
  (reasoned_ok g).seq hx

theorem Reasoned.andThen {c : Checked α} {f : α → Checked β} (hc : Reasoned c)
    (hf : ∀ a, Reasoned (f a)) : Reasoned (c.andThen f) := by
  cases c with
  | ok a => exact hf a
  | refused findings =>
    intro h
    cases h
    exact hc rfl

theorem reasoned_ofRefusal (e : Except Refusal α) : Reasoned (ofRefusal e) := by
  cases e with
  | ok a => exact reasoned_ok a
  | error r => exact reasoned_fail _

theorem Reasoned.under {c : Checked α} (h : Reasoned c) (name : String) :
    Reasoned (c.under name) := by
  cases c with
  | ok a => exact reasoned_ok a
  | refused findings =>
    intro none
    have empty : findings = [] := List.map_eq_nil_iff.mp (Checked.refused.inj none)
    rw [empty] at h
    exact h rfl

theorem reasoned_itemsFrom {read : Json → Checked α} (h : ∀ v, Reasoned (read v))
    (position : Nat) (vs : List Json) : Reasoned (itemsFrom read position vs) := by
  induction vs generalizing position with
  | nil => exact reasoned_ok []
  | cons v vs ih => exact ((h v).under _).map.seq (ih _)

end Checked

section

variable {α : Type} {read : Json → Checked α} {members : List (String × Json)}

theorem reasoned_readList (h : ∀ v, Reasoned (read v)) (v : Json) :
    Reasoned (readList read v) := by
  cases v with
  | arr items => exact reasoned_itemsFrom h 0 items
  | null | bool | num | str | obj => exact reasoned_fail _

theorem reasoned_optional (h : ∀ v, Reasoned (read v)) (name : String) (default : α) :
    Reasoned (optional members name default read) := by
  unfold optional
  split
  · exact (h _).under name
  · exact reasoned_ok default

theorem reasoned_required (h : ∀ v, Reasoned (read v)) (name : String) :
    Reasoned (required members name read) := by
  unfold required
  split
  · exact (h _).under name
  · exact (reasoned_fail _).under name

theorem reasoned_onlyNames (names : List String) : Reasoned (onlyNames names members) := by
  induction members with
  | nil => exact reasoned_ok ()
  | cons m rest ih =>
    unfold onlyNames
    split
    · exact ih
    · exact ((reasoned_fail _).under _).map.seq ih

theorem reasoned_readObject {read : List (String × Json) → Checked α}
    (h : ∀ members, Reasoned (read members)) (kind : String) (names : List String) (v : Json) :
    Reasoned (readObject kind names read v) := by
  cases v with
  | obj members => exact (h members).map.seq (reasoned_onlyNames names)
  | null | bool | num | str | arr => exact reasoned_fail _

end

theorem reasoned_readString (v : Json) : Reasoned (readString v) := by
  cases v with
  | str s => exact reasoned_ok s
  | null | bool | num | arr | obj => exact reasoned_fail _

theorem reasoned_readBool (v : Json) : Reasoned (readBool v) := by
  simp only [readBool, unclearBool]
  repeat' split
  all_goals simp

theorem reasoned_readInt (v : Json) : Reasoned (readInt v) := by
  simp only [readInt, readWholeFloat, tooLarge]
  repeat' split
  all_goals simp

theorem reasoned_readWrittenColor (v : Json) : Reasoned (readWrittenColor v) :=
  (reasoned_readString v).andThen fun _ => (reasoned_ofRefusal _).andThen fun _ => reasoned_ok _

theorem reasoned_readFontSize (v : Json) : Reasoned (readFontSize v) :=
  (reasoned_readInt v).andThen fun _ => (reasoned_ofRefusal _).andThen fun _ => reasoned_ok _

theorem reasoned_readNamedStyle (v : Json) : Reasoned (readNamedStyle v) :=
  (reasoned_readString v).andThen fun _ => reasoned_ofRefusal _

theorem reasoned_readAlignment (v : Json) : Reasoned (readAlignment v) :=
  (reasoned_readString v).andThen fun _ => reasoned_ofRefusal _

theorem reasoned_readFormat (v : Json) : Reasoned (readFormat v) := by
  apply reasoned_readObject
  intro members
  exact (reasoned_optional reasoned_readBool "bold" false).map
    |>.seq (reasoned_optional reasoned_readBool "italic" false)
    |>.seq (reasoned_optional reasoned_readBool "underline" false)
    |>.seq (reasoned_optional reasoned_readBool "strikethrough" false)
    |>.seq (reasoned_optional reasoned_readFontSize "font_size" 0)
    |>.seq (reasoned_optional reasoned_readString "font_family" "")
    |>.seq (reasoned_optional reasoned_readWrittenColor "color" none)
    |>.seq (reasoned_optional reasoned_readWrittenColor "bg_color" none)
    |>.seq (reasoned_optional reasoned_readNamedStyle "named_style" none)
    |>.seq (reasoned_optional reasoned_readAlignment "alignment" none)

theorem reasoned_readTitle (v : Json) : Reasoned (readTitle v) := by
  have text : Reasoned (readTitleText v) := by
    apply reasoned_readObject
    intro members
    exact (reasoned_required reasoned_readString "text").map.seq
      (reasoned_optional reasoned_readFormat "style" {})
  unfold readTitle
  split
  · exact reasoned_ok none
  · exact text.map

theorem reasoned_readKind (v : Json) : Reasoned (ElementKind.read v) := by
  simp only [ElementKind.read]
  split
  · exact reasoned_ok _
  · exact reasoned_fail _

theorem reasoned_readRawElement (members : List (String × Json)) :
    Reasoned (readRawElement members) :=
  (reasoned_required reasoned_readKind "type").map
    |>.seq (reasoned_optional reasoned_readString "text" "")
    |>.seq (reasoned_optional reasoned_readFormat "style" {})
    |>.seq (reasoned_optional reasoned_readString "list_type" "")
    |>.seq (reasoned_optional (reasoned_readList reasoned_readString) "items" [])
    |>.seq (reasoned_optional reasoned_readInt "indent" 0)
    |>.seq (reasoned_optional reasoned_readInt "rows" 0)
    |>.seq (reasoned_optional reasoned_readInt "columns" 0)
    |>.seq (reasoned_optional (reasoned_readList reasoned_readString) "headers" [])
    |>.seq (reasoned_optional (reasoned_readList (reasoned_readList reasoned_readString))
      "table_data" [])

theorem reasoned_settleElement (members : List (String × Json)) (raw : RawElement) :
    Reasoned (settleElement members raw) := by
  simp only [settleElement]
  split
  · cases raw.kind with
    | text | pageBreak | rule => exact reasoned_ok _
    | list => exact reasoned_ofRefusal _
    | table =>
      simp only
      split
      · exact reasoned_fail _
      · exact reasoned_ok _
  · exact reasoned_fail _

theorem reasoned_readElement (v : Json) : Reasoned (readElement v) :=
  (reasoned_readObject reasoned_readRawElement _ _ v).andThen (reasoned_settleElement _)

theorem reasoned_readHeadingText (v : Json) : Reasoned (readHeadingText v) := by
  apply (reasoned_readString v).andThen
  intro s
  split
  · exact reasoned_fail _
  · exact reasoned_ok s

theorem reasoned_readSection (v : Json) : Reasoned (readSection v) := by
  apply reasoned_readObject
  intro members
  exact (reasoned_required reasoned_readHeadingText "heading").map
    |>.seq (reasoned_optional reasoned_readNamedStyle "style" none)
    |>.seq (reasoned_optional (reasoned_readList reasoned_readElement) "content" [])

theorem reasoned_readTemplate (v : Json) : Reasoned (readTemplate v) := by
  apply reasoned_readObject
  intro members
  exact (reasoned_optional reasoned_readTitle "title" none).map
    |>.seq (reasoned_optional (reasoned_readList reasoned_readSection) "sections" [])
    |>.seq (reasoned_optional (reasoned_readList reasoned_readElement) "elements" [])

end Docwright.Template
