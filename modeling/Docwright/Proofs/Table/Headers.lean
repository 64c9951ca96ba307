import Docwright.Proofs.Table.Inserts

namespace Docwright.Table

open Snapshot (Table)
open Edit Replay Job Style

/-- The batch makes the unit at a position bold. -/
def Bold (ops : List Operation) (q : Int) : Prop :=
  ∃ span, Operation.styleText span TextStyle.boldface "bold" ∈ ops ∧ span.start ≤ q ∧ q < span.stop

/-- The unit at a position belongs to a text that the batch has inserted for a header. -/
def OfHeader (j : Job) (t : Table) (ops : List Operation) (final : Body) (q : Int) : Prop :=
  1 ≤ q ∧ ∃ m n i, final[(q - 1).toNat]? = some m ∧ m.origin = some n ∧
    ops[n]? = some (Insert.operation i) ∧ i ∈ j.headerInserts t

/-- The insertions of a job in the order of its batch. -/
def fillInserts (j : Job) (t : Table) : List Insert :=
  (j.dataInserts t).reverse ++ (j.headerInserts t).reverse

/-- The document after the texts of a job have been inserted. -/
def filled (j : Job) (t : Table) (old : List Content) : Body :=
  spread (added 0 (fillInserts j t)) 1 (before old)

theorem operation_injective {a b : Insert} (h : a.operation = b.operation) : a = b := by
  obtain ⟨_, _⟩ := a
  obtain ⟨_, _⟩ := b
  cases h
  rfl

section

variable {t : Table} (ascending : (positions t).Pairwise (· < ·)) (j : Job)

include ascending

theorem fillInserts_descending : Descending (fillInserts j t) := by
  rw [fillInserts, ← List.reverse_append, Descending, List.pairwise_reverse]
  exact inserts_ascending ascending j

theorem fill_eq : j.fill t =
    (fillInserts j t).map Insert.operation ++ (j.headerInserts t).map headerStyle := by
  rw [fill, descending_eq_reverse (inserts_ascending ascending j), fillInserts, List.reverse_append]

theorem bold_fill_iff (q : Int) : Bold (j.fill t) q ↔
    ∃ i ∈ j.headerInserts t, i.1 ≤ q ∧ q < i.1 + Text.width i.2 := by
  rw [fill_eq ascending]
  constructor
  · rintro ⟨span, hs, first, last⟩
    rcases List.mem_append.mp hs with hs | hs
    · obtain ⟨i, _, hi⟩ := List.mem_map.mp hs
      cases hi
    · obtain ⟨i, hi, same⟩ := List.mem_map.mp hs
      cases same
      exact ⟨i, hi, first, last⟩
  · rintro ⟨i, hi, first, last⟩
    exact ⟨_, List.mem_append_right _ (List.mem_map_of_mem hi), first, last⟩

/-- An edit that inserts a text is one of the insertions. -/
theorem fill_getElem? {n : Nat} {i : Insert} :
    (j.fill t)[n]? = some i.operation ↔ (fillInserts j t)[n]? = some i := by
  rw [fill_eq ascending]
  by_cases early : n < (fillInserts j t).length
  · rw [List.getElem?_append_left (by rwa [List.length_map]), List.getElem?_map,
      List.getElem?_eq_getElem early, Option.map_some, Option.some.injEq, Option.some.injEq]
    constructor
    · intro h
      exact operation_injective h
    · intro h
      rw [h]
  · rw [List.getElem?_append_right (by rw [List.length_map]; omega),
      List.getElem?_eq_none (show (fillInserts j t).length ≤ n by omega), List.getElem?_map]
    constructor
    · intro h
      obtain ⟨k, _, hk⟩ := Option.map_eq_some_iff.mp h
      cases hk
    · intro h
      cases h

theorem ofHeader_fill_iff (final : Body) (q : Int) : OfHeader j t (j.fill t) final q ↔
    1 ≤ q ∧ ∃ m n i, final[(q - 1).toNat]? = some m ∧ m.origin = some n ∧
      (fillInserts j t)[n]? = some i ∧ i ∈ j.headerInserts t := by
  simp only [OfHeader, fill_getElem? ascending]

end

theorem mem_fillInserts {j : Job} {t : Table} {i : Insert} :
    i ∈ fillInserts j t ↔ i ∈ j.headerInserts t ++ j.dataInserts t := by
  rw [fillInserts, ← List.reverse_append, List.mem_reverse]

theorem fillInserts_nonempty {j : Job} {t : Table} {i : Insert} (h : i ∈ fillInserts j t) :
    i.2 ≠ "" := by
  rw [mem_fillInserts, inserts_eq] at h
  exact of_decide_eq_true (List.mem_filter.mp h).2

theorem fillInserts_position {j : Job} {t : Table} {i : Insert} (h : i ∈ fillInserts j t) :
    i.1 ∈ positions t := by
  rw [mem_fillInserts, inserts_eq] at h
  exact position_of_mem_cellsOf (List.mem_reverse.mpr (List.mem_filter.mp h).1)

theorem front_unmoved {j : Job} {t : Table} {i : Insert} {a : List Content}
    (lowest : ∀ e ∈ fillInserts j t, i.1 ≤ e.1) (start : i.1 = a.length + 1) :
    spread (added 0 (fillInserts j t)) 1 (before a) = before a := by
  apply spread_eq_self
  intro p _ hp
  rw [length_before] at hp
  apply added_eq_nil
  intro e he
  have := lowest e he
  omega

section

variable {t : Table} {old : List Content} (ascending : (positions t).Pairwise (· < ·))
  (inside : ∀ p ∈ positions t, 1 ≤ p ∧ p ≤ old.length) (j : Job)

include ascending inside

/-- A text that is inserted in front of a position moves it by its own width. -/
theorem le_length_front {i : Insert} (hi : i ∈ fillInserts j t) {a : List Content}
    (last : i.1 ≤ a.length) : a.length + Text.width i.2 ≤
      (spread (added 0 (fillInserts j t)) 1 (before a)).length := by
  obtain ⟨k, hk⟩ := List.getElem?_of_mem hi
  have grown : (before a).length + (added 0 (fillInserts j t) i.1).length ≤
      (spread (added 0 (fillInserts j t)) 1 (before a)).length :=
    le_length_spread (inside _ (fillInserts_position hi)).1 (by rw [length_before]; omega)
  rwa [added_of_getElem? (fillInserts_descending ascending j) hk, length_textMarks,
    length_before] at grown

/-- All edits of the batch address positions that there are. -/
theorem replay_fill (lay : Nat → Layout) : replay lay (j.fill t) old = some (filled j t old) := by
  have ordered := fillInserts_descending ascending j
  have held : ∀ i ∈ fillInserts j t, 1 ≤ i.1 ∧ i.1 ≤ (before old).length := by
    intro i hi
    rw [length_before]
    exact inside _ (fillInserts_position hi)
  have inserted := replayFrom_inserts lay 0 (before old) [] ordered held
  rw [List.append_nil, List.append_nil] at inserted
  have styled (n : Nat) {headers : List Insert} (h : ∀ i ∈ headers, i ∈ fillInserts j t) :
      replayFrom lay n (filled j t old) (headers.map headerStyle) = some (filled j t old) := by
    induction headers generalizing n with
    | nil => rfl
    | cons i is ih =>
      have hi := h i List.mem_cons_self
      obtain ⟨first, last⟩ := inside _ (fillInserts_position hi)
      have grown : old.length + Text.width i.2 ≤ (filled j t old).length :=
        le_length_front ascending inside j hi last
      have holds : Holds (filled j t old) ⟨i.1, i.1 + Text.width i.2, by omega⟩ :=
        ⟨first, show i.1 + (Text.width i.2 : Int) ≤ (filled j t old).length + 1 by omega⟩
      rw [List.map_cons, replayFrom, headerStyle, carryOut, if_pos holds]
      exact ih (n + 1) fun k hk => h k (List.mem_cons_of_mem _ hk)
  rw [fill_eq ascending, replay, replayFrom_append_of inserted]
  exact styled _ fun i hi => mem_fillInserts.mpr (List.mem_append_left _ hi)

/-- Where the text of one insertion stands. -/
theorem filled_around {n : Nat} {i : Insert} (hi : (fillInserts j t)[n]? = some i) :
    ∃ a m c, old = a ++ m :: c ∧ i.1 = a.length + 1 ∧
      filled j t old = spread (added 0 (fillInserts j t)) 1 (before a) ++ textMarks n i.2 ++
        ⟨m, none⟩ :: spread (added 0 (fillInserts j t)) (i.1 + 1) (before c) := by
  obtain ⟨first, last⟩ := inside _ (fillInserts_position (List.mem_of_getElem? hi))
  obtain ⟨a, m, c, rfl, start⟩ := exists_around first last
  have here := added_of_getElem? (n := 0) (fillInserts_descending ascending j) hi
  have position : 1 + ((before a).length : Int) = i.1 := by
    rw [length_before]
    omega
  have marks : before (a ++ m :: c) = before a ++ ⟨m, none⟩ :: before c := List.map_append
  refine ⟨a, m, c, rfl, start, ?_⟩
  rw [filled, marks, spread_append, position, spread, here, Nat.zero_add]
  simp only [List.append_assoc]

/-- The text of the only header stands where it was inserted. -/
theorem ofHeader_iff_of_single {i : Insert} (single : j.headerInserts t = [i]) (q : Int) :
    OfHeader j t (j.fill t) (filled j t old) q ↔ i.1 ≤ q ∧ q < i.1 + Text.width i.2 := by
  have made : (fillInserts j t)[(j.dataInserts t).length]? = some i := by
    simp [fillInserts, single]
  have lowest : ∀ e ∈ fillInserts j t, i.1 ≤ e.1 := by
    have ordered := inserts_ascending ascending j
    intro e he
    rw [mem_fillInserts, single] at he
    rw [single] at ordered
    rcases List.mem_cons.mp he with rfl | he
    · exact Int.le_refl _
    · exact Int.le_of_lt ((List.pairwise_cons.mp ordered).1 e he)
  obtain ⟨a, m, c, rfl, start, whole⟩ := filled_around ascending inside j made
  rw [ofHeader_fill_iff ascending, whole, front_unmoved lowest start]
  constructor
  · rintro ⟨first, m', n, e, hm, origin, he, header⟩
    rw [single, List.mem_singleton] at header
    subst header
    constructor
    · apply Int.not_lt.mp
      intro early
      rw [List.append_assoc, List.getElem?_append_left (by rw [length_before]; omega)] at hm
      obtain ⟨x, _, rfl⟩ := List.mem_map.mp (List.mem_of_getElem? hm)
      cases origin
    · apply Int.not_le.mp
      intro late
      rw [List.getElem?_append_right (by
        rw [List.length_append, length_before, length_textMarks]; omega)] at hm
      rcases List.mem_cons.mp (List.mem_of_getElem? hm) with rfl | hm
      · cases origin
      · obtain ⟨e', he', behind, _⟩ := origin_of_mem_spread hm origin
        rw [he, Option.some.injEq] at he'
        subst he'
        omega
  · rintro ⟨first, last⟩
    obtain ⟨m', hm, origin⟩ := exists_mark_of_text (before a)
      (⟨m, none⟩ :: spread (added 0 (fillInserts j t)) (i.1 + 1) (before c))
      (j.dataInserts t).length i.2 (k := (q - 1).toNat)
      (by rw [length_before]; omega) (by rw [length_before]; omega)
    refine ⟨by omega, m', _, i, hm, origin, made, ?_⟩
    rw [single]
    exact List.mem_singleton_self i

/-- The last unit of the last header is missed when there is a header in front of it. -/
theorem exists_header_not_bold {e i : Insert} {rest : List Insert}
    (several : j.headerInserts t = e :: rest ++ [i]) :
    ∃ q, OfHeader j t (j.fill t) (filled j t old) q ∧ ¬Bold (j.fill t) q := by
  have ordered := inserts_ascending ascending j
  have made : (fillInserts j t)[(j.dataInserts t).length]? = some i := by
    simp [fillInserts, several]
  have wide := Text.width_pos (fillInserts_nonempty (List.mem_of_getElem? made))
  obtain ⟨a, m, c, rfl, start, whole⟩ := filled_around ascending inside j made
  let front := spread (added 0 (fillInserts j t)) 1 (before a)
  -- Each header in front of the last one moves it by at least its own width.
  have moved : ∀ k ∈ e :: rest, k.1 < i.1 ∧ 0 < Text.width k.2 ∧
      a.length + Text.width k.2 ≤ front.length := by
    intro k hk
    have mem : k ∈ fillInserts j t := by
      rw [mem_fillInserts, several]
      exact List.mem_append_left _ (List.mem_append_left _ hk)
    have below : k.1 < i.1 := by
      rw [several] at ordered
      exact (List.pairwise_append.mp (List.pairwise_append.mp ordered).1).2.2 k hk i
        (List.mem_singleton_self i)
    exact ⟨below, Text.width_pos (fillInserts_nonempty mem),
      le_length_front ascending inside j mem (by omega)⟩
  refine ⟨front.length + Text.width i.2, ?_, ?_⟩
  · obtain ⟨m', hm, origin⟩ := exists_mark_of_text front
      (⟨m, none⟩ :: spread (added 0 (fillInserts j t)) (i.1 + 1) (before c))
      (j.dataInserts t).length i.2 (k := ((front.length : Int) + Text.width i.2 - 1).toNat)
      (by omega) (by omega)
    rw [ofHeader_fill_iff ascending, whole]
    refine ⟨by omega, m', _, i, hm, origin, made, ?_⟩
    rw [several]
    exact List.mem_append_right _ (List.mem_singleton_self i)
  · rw [bold_fill_iff ascending]
    rintro ⟨k, hk, first, last⟩
    rw [several] at hk
    rcases List.mem_append.mp hk with hk | hk
    · have := moved k hk
      omega
    · rw [List.mem_singleton.mp hk] at last
      have := moved e List.mem_cons_self
      omega

/-- The header styles of a resolved job make exactly the texts of its headers bold if, and only
if, no more than one header is inserted. -/
theorem header_texts_bold_iff (lay : Nat → Layout) (resolved : j.state = .resolved t) :
    ∃ ops final, j.operations = .ok ops ∧ replay lay ops old = some final ∧
      ((∀ q, Bold ops q ↔ OfHeader j t ops final q) ↔ (j.headerInserts t).length ≤ 1) := by
  have built : j.operations = .ok (j.fill t) := by rw [operations, resolved]
  refine ⟨_, _, built, replay_fill ascending inside j lay, ?_⟩
  rcases List.eq_nil_or_concat (j.headerInserts t) with none | ⟨earlier, i, several⟩
  · refine ⟨fun _ => by simp [none], fun _ q => ?_⟩
    rw [bold_fill_iff ascending, ofHeader_fill_iff ascending, none]
    constructor
    · rintro ⟨i, hi, _⟩
      cases hi
    · rintro ⟨_, _, _, _, _, _, _, hi⟩
      cases hi
  · rw [List.concat_eq_append] at several
    cases earlier with
    | nil =>
      refine ⟨fun _ => by simp [several], fun _ q => ?_⟩
      rw [bold_fill_iff ascending, ofHeader_iff_of_single ascending inside j several, several]
      simp only [List.nil_append, List.mem_singleton, exists_eq_left]
    | cons e rest =>
      obtain ⟨q, header, plain⟩ :=
        exists_header_not_bold ascending inside j several
      constructor
      · exact fun agree => absurd ((agree q).mpr header) plain
      · intro few
        simp [several] at few

end

def square : Table where
  start := 2
  stop := 14
  rows := 2
  columns := 2
  cells := [[some 5, some 7], [some 10, some 12]]

def twoHeaders : Job where
  rows := 2
  columns := 2
  headers := ["A", "B"]
  data := [["1", "2"]]
  state := .resolved square

def squareText : List Content :=
  List.replicate 14 (.unit 10)

theorem two_headers_bold_iff : (twoHeaders.headerInserts square).length = 2 ∧
    ∃ ops final, twoHeaders.operations = .ok ops ∧
      replay (fun _ => ⟨0, []⟩) ops squareText = some final ∧
      ((∀ q, Bold ops q ↔ OfHeader twoHeaders square ops final q) ↔
        (twoHeaders.headerInserts square).length ≤ 1) :=
  ⟨rfl, header_texts_bold_iff (by decide) (by decide) twoHeaders (fun _ => ⟨0, []⟩) rfl⟩

/-- The second header ends up at the eighth position; the seventh and the fifth are bold. -/
theorem second_header_not_bold : ∃ ops final, twoHeaders.operations = .ok ops ∧
    replay (fun _ => ⟨0, []⟩) ops squareText = some final ∧
    OfHeader twoHeaders square ops final 8 ∧ ¬Bold ops 8 ∧
    ¬∀ q, Bold ops q ↔ OfHeader twoHeaders square ops final q := by
  have ascending : (positions square).Pairwise (· < ·) := by decide
  have inside : ∀ p ∈ positions square, 1 ≤ p ∧ p ≤ squareText.length := by decide
  have replayed := replay_fill ascending inside twoHeaders (fun _ => ⟨0, []⟩)
  have header : OfHeader twoHeaders square (twoHeaders.fill square)
      (filled twoHeaders square squareText) 8 := by
    rw [ofHeader_fill_iff ascending]
    exact ⟨by decide, _, 2, (7, "B"), rfl, rfl, rfl, List.mem_cons_of_mem _ List.mem_cons_self⟩
  have plain : ¬Bold (twoHeaders.fill square) 8 := by
    rw [bold_fill_iff ascending]
    decide
  exact ⟨_, _, rfl, replayed, header, plain, fun all => plain ((all 8).mpr header)⟩

end Docwright.Table
