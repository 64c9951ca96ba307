import Docwright.Proofs.Template.Values

namespace Docwright.Template

open Style Checked

theorem exists_bind_eq_ok {α β : Type} {x : Except Refusal α} {f : α → Except Refusal β} :
    (∃ b, x >>= f = .ok b) ↔ ∃ a, x = .ok a ∧ ∃ b, f a = .ok b := by
  cases x with
  | error r =>
    constructor
    · rintro ⟨b, h⟩
      cases h
    · rintro ⟨a, h, _⟩
      cases h
  | ok a =>
    constructor
    · rintro ⟨b, h⟩
      exact ⟨a, rfl, b, h⟩
    · rintro ⟨_, same, b, h⟩
      cases same
      exact ⟨b, h⟩

theorem exists_checkList {raw : RawElement} : (∃ e, checkList raw = .ok e) ↔
    raw.listKind ∈ Refusal.listKindNames ∧ (raw.items ≠ [] ∧ ∀ item ∈ raw.items, IsVisible item) ∧
      0 ≤ raw.indent ∧ raw.indent ≤ 9 := by
  rw [← exists_readListKind, ← exists_checkItems, ← exists_checkIndent]
  unfold checkList
  simp only [exists_bind_eq_ok]
  constructor
  · rintro ⟨kind, hkind, items, hitems, indent, hindent, _⟩
    exact ⟨⟨kind, hkind⟩, ⟨items, hitems⟩, ⟨indent, hindent⟩⟩
  · rintro ⟨⟨kind, hkind⟩, ⟨items, hitems⟩, ⟨indent, hindent⟩⟩
    exact ⟨kind, hkind, items, hitems, indent, hindent, _, rfl⟩

/-- What the members of an element come to, beyond that each has its type. -/
def RawElement.Complete (raw : RawElement) : Prop :=
  match raw.kind with
  | .list => raw.listKind ∈ Refusal.listKindNames ∧
    (raw.items ≠ [] ∧ ∀ item ∈ raw.items, IsVisible item) ∧ 0 ≤ raw.indent ∧ raw.indent ≤ 9
  | .table => 1 ≤ raw.rows ∧ 1 ≤ raw.columns
  | .text | .pageBreak | .rule => True

theorem misplaced_eq_nil_iff {kind : ElementKind} {members : List (String × Json)} :
    misplaced kind members = [] ↔ ∀ m ∈ members, m.1 ∈ kind.names := by
  rw [misplaced, ← List.length_eq_zero_iff, List.length_mergeSort, List.length_eq_zero_iff,
    List.filter_eq_nil_iff]
  simp

theorem passes_settleElement {members : List (String × Json)} {raw : RawElement} :
    Passes (settleElement members raw) ↔
      (∀ m ∈ members, m.1 ∈ raw.kind.names) ∧ raw.Complete := by
  rw [← misplaced_eq_nil_iff, settleElement, ← List.isEmpty_iff]
  cases (misplaced raw.kind members).isEmpty with
  | false => simp [fail, not_passes_refused]
  | true =>
    unfold RawElement.Complete
    cases raw.kind with
    | text | pageBreak | rule => simp [passes_ok]
    | list => simp [passes_ofRefusal, exists_checkList]
    | table =>
      simp only [↓reduceIte, true_and]
      split
      · next small =>
        constructor
        · exact fun h => absurd h (not_passes_refused _)
        · omega
      · next large =>
        constructor
        · omega
        · exact fun _ => passes_ok _

theorem read_kind_eq_ok_iff {w : Json} {k : ElementKind} :
    ElementKind.read w = .ok k ↔ w = .str k.name := by
  constructor
  · intro h
    cases w with
    | str s =>
      simp only [ElementKind.read] at h
      cases found : ElementKind.all.find? (·.name = s) with
      | none => rw [found] at h; cases h
      | some k' =>
        rw [found] at h
        cases h
        have named := List.find?_some found
        rw [of_decide_eq_true named]
    | null | bool | num | arr | obj => cases h
  · rintro rfl
    cases k <;> rfl

theorem required_kind_eq_ok_iff {members : List (String × Json)} {k : ElementKind} :
    required members "type" ElementKind.read = .ok k ↔ HasKind k.name (.obj members) := by
  simp only [required_eq_ok_iff, read_kind_eq_ok_iff, HasKind, Must, Json.get?, Json.members]

/-- What was read of the members of an element. -/
structure RawElement.Reads (raw : RawElement) (members : List (String × Json)) : Prop where
  kind : HasKind raw.kind.name (.obj members)
  format : optional members "style" {} readFormat = .ok raw.format
  listKind : optional members "list_type" "" readString = .ok raw.listKind
  items : optional members "items" [] (readList readString) = .ok raw.items
  indent : optional members "indent" 0 readInt = .ok raw.indent
  rows : optional members "rows" 0 readInt = .ok raw.rows
  columns : optional members "columns" 0 readInt = .ok raw.columns

theorem reads_of_readRawElement {members : List (String × Json)} {raw : RawElement}
    (h : readRawElement members = .ok raw) : raw.Reads members := by
  obtain ⟨_, _, upToHeaders, _, rfl⟩ := seq_eq_ok h
  obtain ⟨_, _, upToColumns, _, rfl⟩ := seq_eq_ok upToHeaders
  obtain ⟨_, columns, upToRows, hcolumns, rfl⟩ := seq_eq_ok upToColumns
  obtain ⟨_, rows, upToIndent, hrows, rfl⟩ := seq_eq_ok upToRows
  obtain ⟨_, indent, upToItems, hindent, rfl⟩ := seq_eq_ok upToIndent
  obtain ⟨_, items, upToListKind, hitems, rfl⟩ := seq_eq_ok upToItems
  obtain ⟨_, listKind, upToStyle, hlistKind, rfl⟩ := seq_eq_ok upToListKind
  obtain ⟨_, format, upToText, hformat, rfl⟩ := seq_eq_ok upToStyle
  obtain ⟨_, _, opened, _, rfl⟩ := seq_eq_ok upToText
  obtain ⟨kind, hkind, rfl⟩ := map_eq_ok opened
  exact ⟨required_kind_eq_ok_iff.mp hkind, hformat, hlistKind, hitems, hindent, hrows, hcolumns⟩

/-- Every member has the type that its name asks for. -/
structure IsTyped (v : Json) : Prop where
  kind : ∃ k : ElementKind, HasKind k.name v
  text : May v "text" (IsText anyText)
  style : May v "style" IsFormat
  listKind : May v "list_type" (IsText anyText)
  items : May v "items" (IsList · (IsText anyText))
  indent : May v "indent" (IsInteger fun _ => True)
  rows : May v "rows" (IsInteger fun _ => True)
  columns : May v "columns" (IsInteger fun _ => True)
  headers : May v "headers" (IsList · (IsText anyText))
  data : May v "table_data" (IsList · (IsList · (IsText anyText)))

theorem passes_readRawElement {members : List (String × Json)} :
    Passes (readRawElement members) ↔ IsTyped (.obj members) := by
  have kinded : Passes (required members "type" ElementKind.read) ↔
      ∃ k : ElementKind, HasKind k.name (.obj members) := by
    simp only [Passes, required_kind_eq_ok_iff]
  unfold readRawElement
  simp only [passes_seq, passes_map, kinded, passes_optional, passes_readString, passes_readFormat,
    passes_readList, passes_readInt]
  constructor
  · rintro ⟨⟨⟨⟨⟨⟨⟨⟨⟨kind, text⟩, style⟩, listKind⟩, items⟩, indent⟩, rows⟩, columns⟩, headers⟩, data⟩
    exact ⟨kind, text, style, listKind, items, indent, rows, columns, headers, data⟩
  · rintro ⟨kind, text, style, listKind, items, indent, rows, columns, headers, data⟩
    exact ⟨⟨⟨⟨⟨⟨⟨⟨⟨kind, text⟩, style⟩, listKind⟩, items⟩, indent⟩, rows⟩, columns⟩, headers⟩, data⟩

theorem hasKind_unique {members : List (String × Json)} {k k' : ElementKind}
    (h : HasKind k.name (.obj members)) (h' : HasKind k'.name (.obj members)) : k = k' := by
  rw [← required_kind_eq_ok_iff] at h h'
  cases h.symm.trans h'
  rfl

/-- An element is right if it has only members of its kind and they are complete. -/
theorem isElement_iff {members : List (String × Json)} {raw : RawElement}
    (typed : IsTyped (.obj members)) (read : raw.Reads members) : IsElement (.obj members) ↔
      (∀ m ∈ members, m.1 ∈ raw.kind.names) ∧ raw.Complete := by
  have kind := read.kind
  have listKind := must_iff (p := (· ∈ Refusal.listKindNames)) read.listKind
    (fun _ => isText_iff) (by decide)
  have items := must_iff (p := fun items => items ≠ [] ∧ ∀ item ∈ items, IsVisible item) read.items
    (fun _ => isFilledList_iff) (by simp)
  have indent := may_iff (p := fun n => 0 ≤ n ∧ n ≤ 9) (q := IsInteger fun n => 0 ≤ n ∧ n ≤ 9)
    read.indent (fun _ => isInteger_iff) (by decide)
  have rows := must_iff (p := (1 ≤ ·)) (q := IsInteger (1 ≤ ·)) read.rows
    (fun _ => isInteger_iff) (by decide)
  have columns := must_iff (p := (1 ≤ ·)) (q := IsInteger (1 ≤ ·)) read.columns
    (fun _ => isInteger_iff) (by decide)
  rw [← isObject_iff]
  unfold RawElement.Complete
  constructor
  · intro element
    cases element with
    | text named object =>
      have same : raw.kind = .text := hasKind_unique kind named
      rw [same]
      exact ⟨object, trivial⟩
    | list named object given filled fits =>
      have same : raw.kind = .list := hasKind_unique kind named
      rw [same]
      exact ⟨object, listKind.mp given, items.mp filled, indent.mp fits⟩
    | table named object high wide =>
      have same : raw.kind = .table := hasKind_unique kind named
      rw [same]
      exact ⟨object, rows.mp high, columns.mp wide⟩
    | pageBreak named object =>
      have same : raw.kind = .pageBreak := hasKind_unique kind named
      rw [same]
      exact ⟨object, trivial⟩
    | rule named object =>
      have same : raw.kind = .rule := hasKind_unique kind named
      rw [same]
      exact ⟨object, trivial⟩
  · rintro ⟨object, complete⟩
    cases hk : raw.kind with
    | text =>
      rw [hk] at kind object
      exact .text kind object typed.text typed.style
    | list =>
      rw [hk] at kind object complete
      obtain ⟨given, filled, fits⟩ := complete
      exact .list kind object (listKind.mpr given) (items.mpr filled) (indent.mpr fits)
    | table =>
      rw [hk] at kind object complete
      exact .table kind object (rows.mpr complete.1) (columns.mpr complete.2) typed.headers
        typed.data
    | pageBreak =>
      rw [hk] at kind object
      exact .pageBreak kind object
    | rule =>
      rw [hk] at kind object
      exact .rule kind object

theorem IsElement.object {v : Json} (h : IsElement v) :
    ∃ k : ElementKind, HasKind k.name v ∧ IsObject v k.names := by
  cases h with
  | text kind object => exact ⟨.text, kind, object⟩
  | list kind object => exact ⟨.list, kind, object⟩
  | table kind object => exact ⟨.table, kind, object⟩
  | pageBreak kind object => exact ⟨.pageBreak, kind, object⟩
  | rule kind object => exact ⟨.rule, kind, object⟩

theorem isTyped_of_bare {v : Json} {k : ElementKind} (kind : HasKind k.name v)
    (object : IsObject v ["type"]) : IsTyped v := by
  have absent (name : String) (other : name ∉ ["type"]) (p : Json → Prop) : May v name p :=
    object.may other p
  exact {
    kind := ⟨k, kind⟩
    text := absent "text" (by decide) _
    style := absent "style" (by decide) _
    listKind := absent "list_type" (by decide) _
    items := absent "items" (by decide) _
    indent := absent "indent" (by decide) _
    rows := absent "rows" (by decide) _
    columns := absent "columns" (by decide) _
    headers := absent "headers" (by decide) _
    data := absent "table_data" (by decide) _ }

theorem IsElement.typed {v : Json} (h : IsElement v) : IsTyped v := by
  cases h with
  | text kind object content style =>
    exact {
      kind := ⟨.text, kind⟩
      text := content
      style
      listKind := object.may (by decide) _
      items := object.may (by decide) _
      indent := object.may (by decide) _
      rows := object.may (by decide) _
      columns := object.may (by decide) _
      headers := object.may (by decide) _
      data := object.may (by decide) _ }
  | list kind object listKind items indent =>
    exact {
      kind := ⟨.list, kind⟩
      text := object.may (by decide) _
      style := object.may (by decide) _
      listKind := listKind.may fun _ => IsText.any
      items := items.may fun _ given => given.1.mono fun _ => IsText.any
      indent := fun w found => (indent w found).any
      rows := object.may (by decide) _
      columns := object.may (by decide) _
      headers := object.may (by decide) _
      data := object.may (by decide) _ }
  | table kind object rows columns headers data =>
    exact {
      kind := ⟨.table, kind⟩
      text := object.may (by decide) _
      style := object.may (by decide) _
      listKind := object.may (by decide) _
      items := object.may (by decide) _
      indent := object.may (by decide) _
      rows := rows.may fun _ => IsInteger.any
      columns := columns.may fun _ => IsInteger.any
      headers, data }
  | pageBreak kind object => exact isTyped_of_bare (k := .pageBreak) kind object
  | rule kind object => exact isTyped_of_bare (k := .rule) kind object

theorem names_subset (k : ElementKind) : k.names ⊆ elementNames := by
  cases k <;> decide

theorem passes_readElement {v : Json} : Passes (readElement v) ↔ IsElement v := by
  unfold readElement
  rw [passes_andThen]
  constructor
  · rintro ⟨raw, read, settled⟩
    obtain ⟨members, rfl, read, _⟩ := readObject_eq_ok_iff.mp read
    have typed := passes_readRawElement.mp ⟨raw, read⟩
    exact (isElement_iff typed (reads_of_readRawElement read)).mpr (passes_settleElement.mp settled)
  · intro element
    have typed := element.typed
    obtain ⟨k, _, members, rfl, known⟩ := element.object
    obtain ⟨raw, read⟩ := passes_readRawElement.mpr typed
    have settled := (isElement_iff typed (reads_of_readRawElement read)).mp element
    refine ⟨raw, readObject_eq_ok_iff.mpr ⟨members, rfl, read, ?_⟩, passes_settleElement.mpr settled⟩
    exact fun m hm => names_subset k (known m hm)

theorem passes_readSection {v : Json} : Passes (readSection v) ↔ IsSection v := by
  unfold readSection
  rw [passes_readObject]
  simp only [passes_seq, passes_map, passes_required, passes_optional, passes_readHeadingText,
    passes_readNamedStyle, passes_readList, passes_readElement]
  constructor
  · rintro ⟨members, rfl, ⟨⟨heading, style⟩, content⟩, known⟩
    exact ⟨⟨members, rfl, known⟩, heading, style, content⟩
  · rintro ⟨⟨members, rfl, known⟩, heading, style, content⟩
    exact ⟨members, rfl, ⟨⟨heading, style⟩, content⟩, known⟩

theorem passes_readTemplate {v : Json} : Passes (readTemplate v) ↔ IsTemplate v := by
  unfold readTemplate
  rw [passes_readObject]
  simp only [passes_seq, passes_map, passes_optional, passes_readTitle, passes_readList,
    passes_readSection, passes_readElement]
  constructor
  · rintro ⟨members, rfl, ⟨⟨title, sections⟩, elements⟩, known⟩
    exact ⟨⟨members, rfl, known⟩, title, sections, elements⟩
  · rintro ⟨⟨members, rfl, known⟩, title, sections, elements⟩
    exact ⟨members, rfl, ⟨⟨title, sections⟩, elements⟩, known⟩

/-- A value that is no text is accepted if and only if it is in the grammar of templates. -/
theorem accepted_iff_isTemplate {v : Json} (plain : ∀ s, v ≠ .str s) :
    (∃ t, Template.ofJson v = .ok t) ↔ IsTemplate v := by
  rw [← passes_readTemplate]
  have unread : Template.ofJson v = (readTemplate v).toExcept.mapError .rules := by
    cases v with
    | str s => exact absurd rfl (plain s)
    | null | bool | num | arr | obj => rfl
  rw [unread]
  cases readTemplate v with
  | ok t => exact ⟨fun _ => passes_ok t, fun _ => ⟨t, rfl⟩⟩
  | refused findings =>
    constructor
    · rintro ⟨t, h⟩
      cases h
    · intro h
      exact absurd h (not_passes_refused findings)

/-- A template with every kind of element but the rule, and with values in their looser forms. -/
def quarterly : Json :=
  .obj [("title", .obj [("text", .str "Quarterly Report"),
      ("style", .obj [("named_style", .str "title"), ("bold", .str "Yes"), ("color", .str "#1a2B3c"),
        ("font_size", .str "+024")])]),
    ("sections", .arr [.obj [("heading", .str " Summary"), ("style", .str ""),
      ("content", .arr [.obj [("type", .str "text"), ("text", .str "All good.")],
        .obj [("type", .str "pagebreak")]])]]),
    ("elements", .arr [
      .obj [("type", .str "list"), ("list_type", .str "bullet"), ("items", .arr [.str "One"]),
        ("indent", .bool true)],
      .obj [("type", .str "table"), ("rows", .num (.int 2)), ("columns", .num (.int 2)),
        ("headers", .arr [.str "A"]), ("table_data", .arr [.arr [.str "1"], .arr []])]])]

/-- A page break with the indent that every element has by default. -/
def indentedBreak : Json :=
  .obj [("elements", .arr [.obj [("type", .str "pagebreak"), ("indent", .num (.int 0))]])]

theorem quarterly_isTemplate : IsTemplate quarterly ∧ ¬IsTemplate indentedBreak := by
  constructor
  · have accepted : (Template.ofJson quarterly).toOption.isSome = true := by decide +kernel
    refine (accepted_iff_isTemplate (v := quarterly) fun _ => nofun).mp ?_
    cases read : Template.ofJson quarterly with
    | ok t => exact ⟨t, rfl⟩
    | error why =>
      rw [read] at accepted
      cases accepted
  · have refused : Template.ofJson indentedBreak = .error (.rules [⟨["elements", "0"],
        "Value error, fields not allowed for pagebreak element: indent"⟩]) := by
      with_unfolding_all rfl
    rw [← accepted_iff_isTemplate (v := indentedBreak) fun _ => nofun]
    rintro ⟨t, h⟩
    rw [refused] at h
    cases h

end Docwright.Template
