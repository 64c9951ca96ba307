import Docwright.Proofs.Template.Pieces

namespace Docwright.Template

open Edit Replay

/-- The warnings about pieces, of which it is known which ones are tables. `after` tells whether a
table stands directly in front of them. -/
def remarks : Bool → List Bool → List String
  | _, [] => []
  | _, true :: rest => remarks true rest
  | true, false :: rest => reorderWarning :: remarks false rest
  | false, false :: rest => remarks false rest

/-- Whether the last piece is a table. -/
def endsInTable : Bool → List Bool → Bool
  | after, [] => after
  | _, table :: rest => endsInTable table rest

theorem remarks_append (after : Bool) (xs ys : List Bool) :
    remarks after (xs ++ ys) = remarks after xs ++ remarks (endsInTable after xs) ys := by
  induction xs generalizing after with
  | nil => rfl
  | cons x xs ih => cases x <;> cases after <;> simp [remarks, endsInTable, ih]

theorem endsInTable_append (after : Bool) (xs ys : List Bool) :
    endsInTable after (xs ++ ys) = endsInTable (endsInTable after xs) ys := by
  induction xs generalizing after with
  | nil => rfl
  | cons x xs ih => exact ih x

/-- There is a warning if and only if something that is no table comes after a table. -/
theorem remarks_ne_nil_iff (after : Bool) (kinds : List Bool) :
    remarks after kinds ≠ [] ↔ [true, false].Sublist (after :: kinds) := by
  induction kinds generalizing after with
  | nil => cases after <;> simp [remarks]
  | cons kind rest ih =>
    cases kind with
    | true =>
      rw [remarks, ih]
      cases after with
      | false => simp [List.sublist_cons_iff]
      | true => simp [List.sublist_cons_iff]
    | false =>
      cases after with
      | false => rw [remarks, ih]; simp [List.sublist_cons_iff]
      | true => simp [remarks]

/-- From `p` to `q`, pieces have been written of which `kinds` tells which ones are tables. -/
structure Notes (p q : Progress) (kinds : List Bool) : Prop where
  warnings : q.warnings = p.warnings ++ remarks p.afterTable kinds
  afterTable : q.afterTable = endsInTable p.afterTable kinds

theorem Notes.trans {p q r : Progress} {xs ys : List Bool} (h : Notes p q xs) (h' : Notes q r ys) :
    Notes p r (xs ++ ys) where
  warnings := by
    rw [h'.warnings, h.warnings, h.afterTable, remarks_append, List.append_assoc]
  afterTable := by rw [h'.afterTable, h.afterTable, endsInTable_append]

theorem notes_passTable (p : Progress) (b : Builder) :
    Notes p { p.passTable with builder := b } [false] := by
  unfold Progress.passTable
  cases h : p.afterTable with
  | true => exact ⟨by simp [h, remarks], by simp [endsInTable]⟩
  | false => exact ⟨by simp [h, remarks], by simp [h, endsInTable]⟩

theorem foldlM_notes {α : Type} {f : Progress → α → Building Progress} {kinds : α → List Bool}
    (step : ∀ p x q, f p x = .ok q → Notes p q (kinds x)) {xs : List α} {p q : Progress}
    (h : xs.foldlM f p = .ok q) : Notes p q (xs.flatMap kinds) := by
  induction xs generalizing p with
  | nil =>
    cases h
    exact ⟨(List.append_nil _).symm, rfl⟩
  | cons x xs ih =>
    rw [List.foldlM_cons] at h
    obtain ⟨next, first, rest⟩ := exists_of_bind h
    exact (step p x next first).trans (ih rest)

theorem writeElement_notes {p q : Progress} {e : Element} (h : writeElement p e = .ok q) :
    Notes p q [(Piece.element e).isTable] := by
  cases e with
  | table rows columns headers data =>
    obtain ⟨b, _, h⟩ := exists_of_bind h
    cases h
    exact ⟨(List.append_nil _).symm, rfl⟩
  | text | list | pageBreak | rule =>
    obtain ⟨b, _, h⟩ := exists_of_bind h
    cases h
    exact notes_passTable p b

theorem writeElements_notes {p q : Progress} {es : List Element}
    (h : es.foldlM writeElement p = .ok q) :
    Notes p q ((es.map Piece.element).map Piece.isTable) := by
  have step : ∀ p e q, writeElement p e = .ok q → Notes p q [(Piece.element e).isTable] :=
    fun _ _ _ => writeElement_notes
  have all := foldlM_notes step h
  rw [← List.map_eq_flatMap] at all
  rw [List.map_map]
  exact all

theorem writeSection_notes {p q : Progress} {s : Section} (h : writeSection p s = .ok q) :
    Notes p q (s.pieces.map Piece.isTable) := by
  obtain ⟨b, _, h⟩ := exists_of_bind h
  exact (notes_passTable p b).trans (writeElements_notes h)

/-- The warnings of a template are about its pieces, in their order. -/
theorem compile_warnings {t : Template} {start : Int} {c : Compiled}
    (h : t.compile start = .ok c) : c.warnings = remarks false ((pieces t).map Piece.isTable) := by
  obtain ⟨b, _, h⟩ := exists_of_bind h
  have untitled : ∃ titled, (t.sections.foldlM writeSection { builder := titled } >>= fun p =>
      t.elements.foldlM writeElement p >>= fun done =>
        pure ⟨done.builder.operations, done.jobs, done.warnings⟩) = Except.ok c := by
    cases ht : t.title with
    | none =>
      simp only [ht] at h
      exact ⟨b, h⟩
    | some title =>
      simp only [ht] at h
      obtain ⟨titled, _, h⟩ := exists_of_bind h
      exact ⟨titled, h⟩
  obtain ⟨titled, h⟩ := untitled
  obtain ⟨p, hp, h⟩ := exists_of_bind h
  obtain ⟨done, hdone, h⟩ := exists_of_bind h
  cases h
  have step : ∀ p s q, writeSection p s = .ok q → Notes p q (s.pieces.map Piece.isTable) :=
    fun _ _ _ => writeSection_notes
  have written := (foldlM_notes step hp).trans (writeElements_notes hdone)
  have body : (pieces t).map Piece.isTable = (t.title.map Piece.title).toList.map Piece.isTable ++
      (t.sections.flatMap (fun s => s.pieces.map Piece.isTable) ++
        (t.elements.map Piece.element).map Piece.isTable) := by
    simp only [pieces, List.map_append, List.map_flatMap, List.append_assoc]
  rw [body, written.warnings, List.nil_append]
  -- a title comes first, so that there is nothing to be said about it
  cases t.title <;> rfl

/-- Something that the batch inserts after a table, and of which `P` holds, stands before it. -/
def Overtaken (b : Body) (is : List Insertion) (P : Insertion → Prop) : Prop :=
  ∃ x y, [x, y].Sublist is ∧ x.isTable ∧ P y ∧ StandsBefore b y.number x.number

/-- A piece of which `P` holds comes after a table in the template. -/
def FollowsTable (t : Template) (P : Piece → Prop) : Prop :=
  ∃ x y, [x, y].Sublist (pieces t) ∧ x.isTable ∧ P y

/-- Everything that comes after a table overtakes it. -/
theorem overtaken_iff {b : Body} {is : List Insertion} (lays : is.Pairwise (Lays b))
    (P : Insertion → Prop) : Overtaken b is P ↔ ∃ x y, [x, y].Sublist is ∧ x.isTable ∧ P y := by
  constructor
  · rintro ⟨x, y, order, table, holds, _⟩
    exact ⟨x, y, order, table, holds⟩
  · rintro ⟨x, y, order, table, holds⟩
    have lies := List.pairwise_iff_forall_sublist.mp lays order
    rw [Lays, if_pos table] at lies
    exact ⟨x, y, order, table, holds, lies⟩

/-- Whether something comes after a table is known from which things are tables. -/
theorem exists_sublist_iff {α : Type} {isTable : α → Bool} {xs : List α} (P : Bool → Prop) :
    (∃ x y, [x, y].Sublist xs ∧ isTable x ∧ P (isTable y)) ↔
      ∃ kind, [true, kind].Sublist (xs.map isTable) ∧ P kind := by
  constructor
  · rintro ⟨x, y, order, table, holds⟩
    have kinds := order.map isTable
    rw [List.map_cons, List.map_singleton, table] at kinds
    exact ⟨isTable y, kinds, holds⟩
  · rintro ⟨kind, order, holds⟩
    obtain ⟨l, sub, kinds⟩ := List.sublist_map_iff.mp order
    match l with
    | [x, y] =>
      simp only [List.map_cons, List.map_nil, List.cons.injEq, and_true] at kinds
      exact ⟨x, y, sub, kinds.1.symm, kinds.2 ▸ holds⟩
    | [] | [_] | _ :: _ :: _ :: _ => simp at kinds

/-- What comes after a table in the template overtakes it in the document, and nothing else does. -/
theorem overtaken_iff_followsTable {b : Body} {t : Template} {is : List Insertion}
    (lays : is.Pairwise (Lays b)) (writes : List.Forall₂ Piece.Writes (pieces t) is)
    (P : Bool → Prop) : Overtaken b is (P ·.isTable) ↔ FollowsTable t (P ·.isTable) := by
  rw [overtaken_iff lays, exists_sublist_iff, map_isTable writes, ← exists_sublist_iff]
  rfl

theorem warnings_ne_nil_iff {t : Template} {start : Int} {c : Compiled}
    (h : t.compile start = .ok c) : c.warnings ≠ [] ↔ FollowsTable t (¬·.isTable) := by
  have other : FollowsTable t (¬·.isTable) ↔ [true, false].Sublist ((pieces t).map Piece.isTable) := by
    rw [FollowsTable, exists_sublist_iff (¬· = true)]
    simp
  rw [compile_warnings h, remarks_ne_nil_iff, other]
  simp [List.sublist_cons_iff]

theorem followsTable_or (t : Template) :
    (FollowsTable t fun _ => True) ↔ FollowsTable t (·.isTable) ∨ FollowsTable t (¬·.isTable) := by
  constructor
  · rintro ⟨x, y, order, table, _⟩
    by_cases kind : y.isTable
    · exact .inl ⟨x, y, order, table, kind⟩
    · exact .inr ⟨x, y, order, table, kind⟩
  · rintro (⟨x, y, order, table, _⟩ | ⟨x, y, order, table, _⟩)
    · exact ⟨x, y, order, table, trivial⟩
    · exact ⟨x, y, order, table, trivial⟩

/-- An accepted template inserts its pieces one after the other, and in the end a table stands
behind all that comes after it in the template, while everything else stands in front of it. There
is a warning if and only if something that is no table stands before a table that precedes it.
Therefore the warnings tell whether anything at all stands before a table that precedes it, unless
tables follow tables in the template and nothing else does. -/
theorem warned_iff_overtaken_iff (lay : Nat → Layout) {v : Json} {t : Template}
    (accepted : Template.ofJson v = .ok t) (old : List Content) (start : Int) (first : 1 ≤ start)
    (last : start ≤ old.length + 1) :
    ∃ c final, t.compile start = .ok c ∧ replay lay c.operations old = some final ∧
      List.Forall₂ Piece.Writes (pieces t) (insertions 0 c.operations) ∧
      (insertions 0 c.operations).Pairwise (Lays final) ∧
      (c.warnings ≠ [] ↔ Overtaken final (insertions 0 c.operations) (¬·.isTable)) ∧
      ((c.warnings ≠ [] ↔ Overtaken final (insertions 0 c.operations) fun _ => True) ↔
        (FollowsTable t (·.isTable) → FollowsTable t (¬·.isTable))) := by
  have proper := proper_of_ofJson accepted
  have whole := whole_passages proper
  obtain ⟨warnings, compiled⟩ := compile_eq_batch proper first
  have writes := forall₂_writes proper start
  have lays := pairwise_lays_batch lay first last whole
  have warned := warnings_ne_nil_iff compiled
  have content := overtaken_iff_followsTable lays writes (¬· = true)
  have anything := overtaken_iff_followsTable lays writes fun _ => True
  refine ⟨_, _, compiled, replay_batch lay first last (fits_passages proper), writes, lays,
    warned.trans content.symm, ?_⟩
  rw [warned, anything, followsTable_or]
  constructor
  · intro tell tables
    exact tell.mpr (.inl tables)
  · intro noticed
    constructor
    · exact .inr
    · rintro (tables | others)
      · exact noticed tables
      · exact others

/-- A heading, two tables and a text, in this order, and a table at the end. -/
def textAfterTables : Json :=
  let table : Json := .obj [("type", .str "table"), ("rows", .num (.int 1)), ("columns", .num (.int 2))]
  .obj [("sections", .arr [.obj [("heading", .str "H"),
      ("content", .arr [table, table, .obj [("type", .str "text"), ("text", .str "x")]])]]),
    ("elements", .arr [table])]

def smallLayout (n : Nat) : Layout :=
  ⟨n + 1, [[some 1]]⟩

theorem textAfterTables_warned : ∃ t c final, Template.ofJson textAfterTables = .ok t ∧
    t.compile 1 = .ok c ∧ replay smallLayout c.operations [lineEnd] = some final ∧
    c.warnings = [reorderWarning] ∧
    (Overtaken final (insertions 0 c.operations) fun _ => True) := by
  have accepted : ∃ t c, Template.ofJson textAfterTables = .ok t ∧ t.compile 1 = .ok c ∧
      c.warnings = [reorderWarning] := ⟨_, _, by with_unfolding_all rfl, rfl, rfl⟩
  obtain ⟨t, c, accepted, compiled, warning⟩ := accepted
  obtain ⟨c', final, compiled', replayed, _, _, _, told⟩ :=
    warned_iff_overtaken_iff smallLayout accepted [lineEnd] 1 (by decide) (by decide)
  cases compiled.symm.trans compiled'
  have given : c.warnings ≠ [] := by
    rw [warning]
    exact List.cons_ne_nil _ _
  have others : FollowsTable t (¬·.isTable) := (warnings_ne_nil_iff compiled).mp given
  have anything := (told.mpr fun _ => others).mp given
  exact ⟨t, c, final, accepted, compiled, replayed, warning, anything⟩

/-- Two tables and nothing else. -/
def twoTables : Json :=
  let table : Json := .obj [("type", .str "table"), ("rows", .num (.int 1)), ("columns", .num (.int 1))]
  .obj [("elements", .arr [table, table])]

/-- The second of two tables is put in front of the first one without a warning. -/
theorem second_table_overtakes_unnoticed : ∃ t c final, Template.ofJson twoTables = .ok t ∧
    t.compile 1 = .ok c ∧ replay smallLayout c.operations [lineEnd] = some final ∧
    c.warnings = [] ∧ Overtaken final (insertions 0 c.operations) fun _ => True := by
  refine ⟨_, _, _, by with_unfolding_all rfl, rfl, rfl, rfl, ?_⟩
  refine ⟨⟨0, .insertTable 1 1 1⟩, ⟨1, .insertTable 1 1 1⟩, List.Sublist.refl _, rfl, trivial, ?_⟩
  exact {
    first := by decide
    second := by decide
    apart := by unfold Apart; decide }

end Docwright.Template
