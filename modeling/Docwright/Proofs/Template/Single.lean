import Docwright.Proofs.Template.Acceptance
import Docwright.Proofs.Template.Reordering

/-!
Templates of a single element. Such a template is accepted if and only if its element is
(`accepted_single_iff`), and its batch writes that element without remark (`compile_single`).
-/

namespace Docwright.Template

open Edit Replay Checked Style

section

variable {α : Type} {members : List (String × Json)} {name : String} {default a : α}
  {read : Json → Checked α}

/-- The member is `w`, or it is left out because its value is the default. -/
def Given (v : Json) (name : String) (w : Json) (isDefault : Prop) : Prop :=
  v.get? name = some w ∨ v.get? name = none ∧ isDefault

theorem optional_of_given {w : Json} (given : Given (.obj members) name w (a = default))
    (passes : read w = .ok a) : optional members name default read = .ok a := by
  rw [optional_eq_ok_iff]
  rcases given with found | ⟨absent, same⟩
  · exact .inr ⟨w, found, passes⟩
  · exact .inl ⟨absent, same⟩

theorem optional_of_may {w : Json} (given : May (.obj members) name (· = w))
    (passes : read w = .ok default) : optional members name default read = .ok default := by
  rw [optional_eq_ok_iff]
  cases found : Json.lookup name members with
  | none => exact .inl ⟨rfl, rfl⟩
  | some w' =>
    have same : w' = w := given w' found
    exact .inr ⟨w', rfl, same ▸ passes⟩

theorem optional_of_foreign {names : List String} (object : IsObject (.obj members) names)
    (foreign : name ∉ names) : optional members name default read = .ok default := by
  rw [optional_eq_ok_iff]
  cases found : Json.lookup name members with
  | none => exact .inl ⟨rfl, rfl⟩
  | some w => exact absurd (isObject_iff.mp object _ (mem_of_lookup found)) foreign

theorem itemsFrom_map {β : Type} {f : β → Json} {read : Json → Checked β}
    (h : ∀ b, read (f b) = .ok b) (position : Nat) (bs : List β) :
    itemsFrom read position (bs.map f) = .ok bs := by
  induction bs generalizing position with
  | nil => rfl
  | cons b bs ih =>
    rw [List.map_cons, itemsFrom, h, ih]
    rfl

end

def texts (items : List String) : Json :=
  .arr (items.map .str)

theorem readList_texts (items : List String) : readList readString (texts items) = .ok items :=
  itemsFrom_map (f := Json.str) (fun _ => rfl) 0 items

theorem readList_rows (data : List (List String)) :
    readList (readList readString) (.arr (data.map texts)) = .ok data :=
  itemsFrom_map readList_texts 0 data

section

variable (members : List (String × Json))

/-- What is read of the members that only texts have. -/
structure ReadsText (text : String) (format : TextFormat) : Prop where
  text : optional members "text" "" readString = .ok text
  format : optional members "style" {} readFormat = .ok format

/-- What is read of the members that only lists have. -/
structure ReadsList (kind : String) (items : List String) (indent : Int) : Prop where
  kind : optional members "list_type" "" readString = .ok kind
  items : optional members "items" [] (readList readString) = .ok items
  indent : optional members "indent" 0 readInt = .ok indent

/-- What is read of the members that only tables have. -/
structure ReadsTable (rows columns : Int) (headers : List String) (data : List (List String)) :
    Prop where
  rows : optional members "rows" 0 readInt = .ok rows
  columns : optional members "columns" 0 readInt = .ok columns
  headers : optional members "headers" [] (readList readString) = .ok headers
  data : optional members "table_data" [] (readList (readList readString)) = .ok data

end

section

variable {members : List (String × Json)} {k : ElementKind}

theorem readsText_of_ne (object : IsObject (.obj members) k.names) (other : k ≠ .text) :
    ReadsText members "" {} := by
  have foreign : "text" ∉ k.names ∧ "style" ∉ k.names := by
    cases k <;> first | exact absurd rfl other | decide
  exact ⟨optional_of_foreign object foreign.1, optional_of_foreign object foreign.2⟩

theorem readsList_of_ne (object : IsObject (.obj members) k.names) (other : k ≠ .list) :
    ReadsList members "" [] 0 := by
  have foreign : "list_type" ∉ k.names ∧ "items" ∉ k.names ∧ "indent" ∉ k.names := by
    cases k <;> first | exact absurd rfl other | decide
  exact ⟨optional_of_foreign object foreign.1, optional_of_foreign object foreign.2.1,
    optional_of_foreign object foreign.2.2⟩

theorem readsTable_of_ne (object : IsObject (.obj members) k.names) (other : k ≠ .table) :
    ReadsTable members 0 0 [] [] := by
  have foreign : "rows" ∉ k.names ∧ "columns" ∉ k.names ∧ "headers" ∉ k.names ∧
      "table_data" ∉ k.names := by
    cases k <;> first | exact absurd rfl other | decide
  exact ⟨optional_of_foreign object foreign.1, optional_of_foreign object foreign.2.1,
    optional_of_foreign object foreign.2.2.1, optional_of_foreign object foreign.2.2.2⟩

end

theorem readRawElement_eq {members : List (String × Json)} {raw : RawElement}
    (kind : HasKind raw.kind.name (.obj members)) (text : ReadsText members raw.text raw.format)
    (list : ReadsList members raw.listKind raw.items raw.indent)
    (table : ReadsTable members raw.rows raw.columns raw.headers raw.data) :
    readRawElement members = .ok raw := by
  rw [readRawElement, required_kind_eq_ok_iff.mpr kind, text.text, text.format, list.kind,
    list.items, list.indent, table.rows, table.columns, table.headers, table.data]
  rfl

/-- An element that has only members of its kind. -/
theorem readElement_eq {members : List (String × Json)} {raw : RawElement}
    (read : readRawElement members = .ok raw) (own : IsObject (.obj members) raw.kind.names) :
    readElement (.obj members) = settleElement [] raw := by
  have own := isObject_iff.mp own
  have known : ∀ m ∈ members, m.1 ∈ elementNames := fun m hm => names_subset raw.kind (own m hm)
  have object : readObject "TemplateElement" elementNames readRawElement (.obj members) = .ok raw :=
    readObject_eq_ok_iff.mpr ⟨members, rfl, read, known⟩
  have none : misplaced raw.kind members = misplaced raw.kind [] :=
    (misplaced_eq_nil_iff.mpr own).trans (misplaced_eq_nil_iff.mpr (List.forall_mem_nil _)).symm
  rw [readElement, object]
  simp only [Checked.andThen, Json.members, settleElement, none]

/-- The value is a template with this element and nothing else. -/
structure IsSingle (element v : Json) : Prop where
  object : IsObject v ["title", "sections", "elements"]
  untitled : May v "title" (· = .null)
  undivided : May v "sections" (· = .arr [])
  elements : v.get? "elements" = some (.arr [element])

/-- The value is given by itself or as text. -/
def Holds (given v : Json) : Prop :=
  given = v ∨ ∃ text, given = .str text ∧ Json.ofText text = .ok v

theorem readTemplate_single {element v : Json} (h : IsSingle element v) {e : Element}
    (read : readElement element = .ok e) : readTemplate v = .ok ⟨none, [], [e]⟩ := by
  obtain ⟨⟨members, rfl, known⟩, untitled, undivided, elements⟩ := h
  have title : optional members "title" none readTitle = .ok none :=
    optional_of_may untitled rfl
  have sections : optional members "sections" [] (readList readSection) = .ok [] :=
    optional_of_may undivided rfl
  have only : readList readElement (.arr [element]) = .ok [e] := by
    rw [readList, itemsFrom, read]
    rfl
  have elements : optional members "elements" [] (readList readElement) = .ok [e] :=
    optional_eq_ok_iff.mpr (.inr ⟨_, elements, only⟩)
  refine readObject_eq_ok_iff.mpr ⟨members, rfl, ?_, known⟩
  rw [title, sections, elements]
  rfl

theorem exists_readElement {element v : Json} (h : IsSingle element v) {t : Template}
    (read : readTemplate v = .ok t) : ∃ e, readElement element = .ok e := by
  have template := passes_readTemplate.mp ⟨t, read⟩
  obtain ⟨items, same, all⟩ := template.elements _ h.elements
  cases same
  exact passes_readElement.mpr (all element List.mem_cons_self)

theorem ofJson_of_holds {given : Json} {members : List (String × Json)}
    (holds : Holds given (.obj members)) :
    Template.ofJson given = (readTemplate (.obj members)).toExcept.mapError Invalid.rules := by
  rcases holds with rfl | ⟨text, rfl, read⟩
  · rfl
  · simp only [Template.ofJson, read]
    rfl

theorem ofJson_eq_ok_iff {given : Json} {members : List (String × Json)}
    (holds : Holds given (.obj members)) {t : Template} :
    Template.ofJson given = .ok t ↔ readTemplate (.obj members) = .ok t := by
  rw [ofJson_of_holds holds]
  refine ⟨readTemplate_of_checked, fun read => ?_⟩
  rw [read]
  rfl

theorem accepted_single_iff {given element v : Json} (h : IsSingle element v)
    (holds : Holds given v) {t : Template} : Template.ofJson given = .ok t ↔
      ∃ e, readElement element = .ok e ∧ t = ⟨none, [], [e]⟩ := by
  obtain ⟨members, rfl, _⟩ := h.object
  rw [ofJson_eq_ok_iff holds]
  constructor
  · intro read
    obtain ⟨e, element⟩ := exists_readElement h read
    cases read.symm.trans (readTemplate_single h element)
    exact ⟨e, element, rfl⟩
  · rintro ⟨e, element, rfl⟩
    exact readTemplate_single h element

theorem compile_single {e : Element} (proper : e.Proper) {start : Int} (first : 1 ≤ start) :
    Template.compile ⟨none, [], [e]⟩ start =
      .ok ⟨batch start [e.passage], e.job?.toList, []⟩ := by
  have proper : Proper ⟨none, [], [e]⟩ :=
    ⟨List.forall_mem_nil _, List.forall_mem_singleton.mpr proper⟩
  obtain ⟨warnings, compiled⟩ := compile_eq_batch proper first
  have quiet : warnings = [] := by
    have remarks := compile_warnings compiled
    cases e <;> exact remarks
  have jobs : jobs ⟨none, [], [e]⟩ = e.job?.toList := by
    cases e <;> rfl
  rw [compiled, quiet, jobs]
  rfl

end Docwright.Template
