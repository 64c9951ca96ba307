import Docwright.Template.Reader

namespace Docwright.Template

open Style

def Element.Proper : Element → Prop
  | .list _ items indent =>
    items ≠ [] ∧ (∀ item ∈ items, Text.allBlank item = false) ∧ 0 ≤ indent ∧ indent ≤ Refusal.maxIndent
  | .table rows columns _ _ => 1 ≤ rows ∧ 1 ≤ columns
  | _ => True

def Proper (t : Template) : Prop :=
  (∀ s ∈ t.sections, ∀ e ∈ s.content, e.Proper) ∧ ∀ e ∈ t.elements, e.Proper

namespace Checked

variable {α β : Type}

theorem seq_eq_ok {f : Checked (α → β)} {x : Checked α} {b : β} (h : f <*> x = .ok b) :
    ∃ g a, f = .ok g ∧ x = .ok a ∧ g a = b := by
  cases f with
  | refused before => cases x <;> cases h
  | ok g =>
    cases x with
    | refused after => cases h
    | ok a =>
      cases h
      exact ⟨g, a, rfl, rfl, rfl⟩

theorem map_eq_ok {g : α → β} {x : Checked α} {b : β} (h : g <$> x = .ok b) :
    ∃ a, x = .ok a ∧ g a = b := by
  obtain ⟨g', a, hg, ha, rfl⟩ := seq_eq_ok (f := .ok g) h
  cases hg
  exact ⟨a, ha, rfl⟩

theorem andThen_eq_ok {c : Checked α} {f : α → Checked β} {b : β} (h : c.andThen f = .ok b) :
    ∃ a, c = .ok a ∧ f a = .ok b := by
  cases c with
  | ok a => exact ⟨a, rfl, h⟩
  | refused findings => cases h

theorem under_eq_ok_iff {name : String} {c : Checked α} {a : α} :
    c.under name = .ok a ↔ c = .ok a := by
  cases c with
  | ok a' => exact Iff.rfl
  | refused findings => exact ⟨nofun, nofun⟩

theorem ofRefusal_eq_ok_iff {e : Except Refusal α} {a : α} : ofRefusal e = .ok a ↔ e = .ok a := by
  cases e with
  | ok a' => simp [ofRefusal]
  | error r => exact ⟨nofun, nofun⟩

theorem itemsFrom_eq_ok {read : Json → Checked α} {position : Nat} {vs : List Json} {as : List α}
    (h : itemsFrom read position vs = .ok as) : ∀ a ∈ as, ∃ v, read v = .ok a := by
  induction vs generalizing position as with
  | nil => cases h; exact List.forall_mem_nil _
  | cons v vs ih =>
    obtain ⟨g, rest, hg, hrest, rfl⟩ := seq_eq_ok h
    obtain ⟨first, hfirst, rfl⟩ := map_eq_ok hg
    intro a ha
    rcases List.mem_cons.mp ha with rfl | ha
    · exact ⟨v, under_eq_ok_iff.mp hfirst⟩
    · exact ih hrest a ha

end Checked

open Checked

variable {α : Type}

theorem readList_eq_ok {read : Json → Checked α} {v : Json} {as : List α}
    (h : readList read v = .ok as) : ∀ a ∈ as, ∃ w, read w = .ok a := by
  cases v with
  | arr items => exact itemsFrom_eq_ok h
  | _ => cases h

theorem optional_eq_ok_iff {members : List (String × Json)} {name : String} {default a : α}
    {read : Json → Checked α} : optional members name default read = .ok a ↔
    Json.lookup name members = none ∧ a = default ∨
      ∃ v, Json.lookup name members = some v ∧ read v = .ok a := by
  unfold optional
  cases Json.lookup name members with
  | none => simp [eq_comm]
  | some v => simp [under_eq_ok_iff]

theorem readObject_eq_ok {kind : String} {names : List String}
    {read : List (String × Json) → Checked α} {v : Json} {a : α}
    (h : readObject kind names read v = .ok a) : ∃ members, read members = .ok a := by
  cases v with
  | obj members =>
    obtain ⟨g, u, hg, _, rfl⟩ := seq_eq_ok h
    obtain ⟨a, ha, rfl⟩ := map_eq_ok hg
    exact ⟨members, ha⟩
  | _ => cases h

/-- A list that is left out is empty, and the others have members that were read. -/
theorem optionalList_eq_ok {members : List (String × Json)} {name : String} {as : List α}
    {read : Json → Checked α} (h : optional members name [] (readList read) = .ok as) :
    ∀ a ∈ as, ∃ v, read v = .ok a := by
  rcases optional_eq_ok_iff.mp h with ⟨_, rfl⟩ | ⟨v, _, hv⟩
  · exact List.forall_mem_nil _
  · exact readList_eq_ok hv

theorem checkItemsFrom_eq_ok {position : Nat} {items : List String}
    (h : checkItemsFrom position items = .ok ()) : ∀ item ∈ items, Text.allBlank item = false := by
  induction items generalizing position with
  | nil => exact List.forall_mem_nil _
  | cons first rest ih =>
    unfold checkItemsFrom at h
    split at h
    · cases h
    · next visible =>
      intro item hi
      rcases List.mem_cons.mp hi with rfl | hi
      · simpa using visible
      · exact ih h item hi

theorem checkItems_eq_ok {items : List String} (h : checkItems items = .ok ()) :
    items ≠ [] ∧ ∀ item ∈ items, Text.allBlank item = false := by
  unfold checkItems at h
  split at h
  · cases h
  · next filled => exact ⟨by simpa using filled, checkItemsFrom_eq_ok h⟩

theorem checkIndent_eq_ok {levels : Int} (h : checkIndent levels = .ok ()) :
    0 ≤ levels ∧ levels ≤ Refusal.maxIndent := by
  unfold checkIndent at h
  split at h
  · cases h
  · split at h
    · cases h
    · omega

theorem proper_checkList {raw : RawElement} {e : Element} (h : checkList raw = .ok e) : e.Proper := by
  unfold checkList at h
  cases hk : ListKind.read raw.listKind with
  | error r => rw [hk] at h; cases h
  | ok kind =>
    cases hi : checkItems raw.items with
    | error r => rw [hk, hi] at h; cases h
    | ok =>
      cases hn : checkIndent raw.indent with
      | error r => rw [hk, hi, hn] at h; cases h
      | ok =>
        rw [hk, hi, hn] at h
        cases h
        obtain ⟨filled, visible⟩ := checkItems_eq_ok hi
        exact ⟨filled, visible, checkIndent_eq_ok hn⟩

theorem proper_settleElement {members : List (String × Json)} {raw : RawElement} {e : Element}
    (h : settleElement members raw = .ok e) : e.Proper := by
  simp only [settleElement] at h
  split at h
  · cases hk : raw.kind with
    | text | pageBreak | rule => rw [hk] at h; cases h; exact trivial
    | list => rw [hk] at h; exact proper_checkList (ofRefusal_eq_ok_iff.mp h)
    | table =>
      rw [hk] at h
      simp only at h
      split at h
      · cases h
      · cases h
        simp only [Element.Proper]
        omega
  · cases h

theorem proper_readElement {v : Json} {e : Element} (h : readElement v = .ok e) : e.Proper := by
  obtain ⟨raw, _, settled⟩ := andThen_eq_ok h
  exact proper_settleElement settled

theorem content_of_readSection {v : Json} {s : Section} (h : readSection v = .ok s) :
    ∀ e ∈ s.content, ∃ w, readElement w = .ok e := by
  obtain ⟨members, h⟩ := readObject_eq_ok h
  obtain ⟨_, content, hbuild, hcontent, rfl⟩ := seq_eq_ok h
  obtain ⟨_, _, hopened, _, rfl⟩ := seq_eq_ok hbuild
  obtain ⟨_, _, rfl⟩ := map_eq_ok hopened
  exact optionalList_eq_ok hcontent

theorem title_of_readTitle {v : Json} {title : Title} (h : readTitle v = .ok (some title)) :
    readTitleText v = .ok title := by
  unfold readTitle at h
  split at h
  · cases h
  · obtain ⟨_, read, same⟩ := map_eq_ok h
    cases same
    exact read

/-- Each part of the template was read from some value. -/
structure PartsRead (t : Template) : Prop where
  title : ∀ title, t.title = some title → ∃ v, readTitleText v = .ok title
  sections : ∀ s ∈ t.sections, ∃ v, readSection v = .ok s
  elements : ∀ e ∈ t.elements, ∃ v, readElement v = .ok e

theorem partsRead_of_readTemplate {v : Json} {t : Template} (h : readTemplate v = .ok t) :
    PartsRead t := by
  obtain ⟨members, h⟩ := readObject_eq_ok h
  obtain ⟨build, elements, hbuild, helements, rfl⟩ := seq_eq_ok h
  obtain ⟨opened, sections, hopened, hsections, rfl⟩ := seq_eq_ok hbuild
  obtain ⟨title, htitle, rfl⟩ := map_eq_ok hopened
  refine ⟨?_, optionalList_eq_ok hsections, optionalList_eq_ok helements⟩
  rintro given rfl
  rcases optional_eq_ok_iff.mp htitle with ⟨_, absent⟩ | ⟨w, _, read⟩
  · cases absent
  · exact ⟨w, title_of_readTitle read⟩

theorem proper_readTemplate {v : Json} {t : Template} (h : readTemplate v = .ok t) : Proper t := by
  obtain ⟨_, sections, elements⟩ := partsRead_of_readTemplate h
  constructor
  · intro s hs e he
    obtain ⟨w, hw⟩ := sections s hs
    obtain ⟨u, hu⟩ := content_of_readSection hw e he
    exact proper_readElement hu
  · intro e he
    obtain ⟨w, hw⟩ := elements e he
    exact proper_readElement hw

theorem readTemplate_of_checked {value : Json} {t : Template}
    (h : (readTemplate value).toExcept.mapError Invalid.rules = .ok t) :
    readTemplate value = .ok t := by
  cases hr : readTemplate value with
  | ok t' => rw [hr] at h; cases h; rfl
  | refused findings => rw [hr] at h; cases h

theorem exists_readTemplate {v : Json} {t : Template} (h : Template.ofJson v = .ok t) :
    ∃ value, readTemplate value = .ok t := by
  cases v with
  | str s =>
    cases hp : Json.ofText s with
    | ok value =>
      simp only [Template.ofJson, hp] at h
      exact ⟨value, readTemplate_of_checked h⟩
    | error unread =>
      simp only [Template.ofJson, hp] at h
      cases h
  | null | bool | num | arr | obj =>
    simp only [Template.ofJson, pure_bind] at h
    exact ⟨_, readTemplate_of_checked h⟩

theorem proper_of_ofJson {v : Json} {t : Template} (h : Template.ofJson v = .ok t) : Proper t := by
  obtain ⟨_, read⟩ := exists_readTemplate h
  exact proper_readTemplate read

end Docwright.Template
