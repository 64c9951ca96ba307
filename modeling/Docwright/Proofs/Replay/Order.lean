import Docwright.Proofs.Replay.Origins

/-!
The order in which a batch leaves what it inserts. Texts and page breaks stand in the order of
their insertions; a table is pushed behind everything that is inserted after it
(`pairwise_lays_batch`).
-/

namespace Docwright.Replay

open Edit

/-- An edit that brings something to a document, with its number in the batch. -/
structure Insertion where
  number : Nat
  edit : Operation

def isInsertion : Operation → Bool
  | .insertText .. | .insertPageBreak _ | .insertTable .. => true
  | _ => false

def isTableInsertion : Operation → Bool
  | .insertTable .. => true
  | _ => false

def Insertion.isTable (i : Insertion) : Bool :=
  isTableInsertion i.edit

/-- The insertions of a batch whose first edit is edit `n`. -/
def insertions (n : Nat) : List Operation → List Insertion
  | [] => []
  | op :: ops =>
    if isInsertion op then ⟨n, op⟩ :: insertions (n + 1) ops else insertions (n + 1) ops

/-- The edit inserts what the passage is made of. -/
inductive Passage.Inserts : Passage → Operation → Prop where
  | text (index : Int) (content : String) (ranges : List Ranged) :
    Inserts (.text content ranges) (.insertText index content)
  | pageBreak (index : Int) : Inserts .pageBreak (.insertPageBreak index)
  | table (index rows columns : Int) :
    Inserts (.table rows columns) (.insertTable index rows columns)

/-- No mark of edit `k` stands in front of a mark of edit `m`. -/
def Apart (b : Body) (m k : Nat) : Prop :=
  b.Pairwise fun x y => x.origin = some k → y.origin ≠ some m

/-- Both edits have brought something, and all that edit `m` has brought stands in front of all that
edit `k` has brought. -/
structure StandsBefore (b : Body) (m k : Nat) : Prop where
  first : broughtBy m b ≠ []
  second : broughtBy k b ≠ []
  apart : Apart b m k

/-- How an insertion stands to a later one: behind it if it is a table, else in front of it. -/
def Lays (b : Body) (x y : Insertion) : Prop :=
  if x.isTable then StandsBefore b y.number x.number else StandsBefore b x.number y.number

theorem insertions_append (n : Nat) (xs ys : List Operation) :
    insertions n (xs ++ ys) = insertions n xs ++ insertions (n + xs.length) ys := by
  induction xs generalizing n with
  | nil => rfl
  | cons op ops ih =>
    have shift : n + 1 + ops.length = n + (op :: ops).length := by
      simp only [List.length_cons]
      omega
    simp only [List.cons_append, insertions, ih, shift]
    split <;> rfl

theorem isInsertion_over (s : Span) (f : Format) : isInsertion (f.over s) = false := by
  cases f <;> rfl

theorem insertions_ranges (n : Nat) (c : Int) (ranges : List Ranged) :
    insertions n (ranges.map (Ranged.edit c)) = [] := by
  induction ranges generalizing n with
  | nil => rfl
  | cons r rs ih => simp [insertions, Ranged.edit, isInsertion_over, ih]

/-- Every passage makes one insertion, before all other edits of it. -/
theorem Passage.exists_insertion {p : Passage} (whole : p.Whole) (n : Nat) (c : Int) :
    ∃ op, insertions n (p.edits c) = [⟨n, op⟩] ∧ p.Inserts op ∧ (p.edits c)[0]? = some op := by
  cases p with
  | text content ranges =>
    have nonempty : content ≠ "" := whole.1
    refine ⟨.insertText c content, ?_, .text c content ranges, ?_⟩
    · simp only [edits, nonempty, ↓reduceIte, List.cons_append, List.nil_append, insertions,
        isInsertion, insertions_ranges]
    · simp only [edits, nonempty, ↓reduceIte, List.cons_append, List.getElem?_cons_zero]
  | pageBreak => exact ⟨.insertPageBreak c, rfl, .pageBreak c, rfl⟩
  | table rows columns => exact ⟨.insertTable c rows columns, rfl, .table c rows columns, rfl⟩

theorem Passage.count_pos {p : Passage} (whole : p.Whole) : 0 < p.count := by
  obtain ⟨op, _, _, first⟩ := exists_insertion whole 0 0
  exact (List.getElem?_eq_some_iff.mp first).1

/-- The insertions of a batch are those of its passages, one for each, in their order. -/
theorem forall₂_inserts (n : Nat) (c : Int) {ps : List Passage} (whole : ∀ p ∈ ps, p.Whole) :
    List.Forall₂ (fun p (i : Insertion) => p.Inserts i.edit) ps (insertions n (batch c ps)) := by
  induction ps generalizing n c with
  | nil => exact .nil
  | cons p ps ih =>
    obtain ⟨op, insertion, inserts, _⟩ := p.exists_insertion (whole p List.mem_cons_self) n c
    rw [batch, insertions_append, insertion]
    exact .cons inserts (ih _ _ fun q hq => whole q (List.mem_cons_of_mem _ hq))

theorem exists_of_mem_insertions {n : Nat} {ops : List Operation} {i : Insertion}
    (h : i ∈ insertions n ops) : ∃ k, i.number = n + k ∧ ops[k]? = some i.edit := by
  induction ops generalizing n with
  | nil => cases h
  | cons op ops ih =>
    have later (hi : i ∈ insertions (n + 1) ops) :
        ∃ k, i.number = n + k ∧ (op :: ops)[k]? = some i.edit := by
      obtain ⟨k, number, edit⟩ := ih hi
      exact ⟨k + 1, by omega, edit⟩
    rw [insertions] at h
    split at h
    · rcases List.mem_cons.mp h with rfl | h
      · exact ⟨0, rfl, rfl⟩
      · exact later h
    · exact later h

theorem Passage.origin_of_mem_marks {p : Passage} {n : Nat} {m : Mark} (h : m ∈ p.marks n) :
    m.origin = some n := by
  cases p with
  | text content ranges => exact origin_of_mem_textMarks h
  | pageBreak => rw [List.eq_of_mem_replicate h]
  | table => cases h

theorem Passage.origin_of_mem_tableMarks {p : Passage} {lay : Nat → Layout} {n : Nat} {m : Mark}
    (h : m ∈ p.tableMarks lay n) : m.origin = some n := by
  cases p with
  | text | pageBreak => cases h
  | table rows columns =>
    have new : m ∈ newMarks lay n (.insertTable 0 rows columns) := h
    exact origin_of_mem_newMarks new

theorem origin_of_mem_flow {ps : List Passage} {n : Nat} {m : Mark} (h : m ∈ flow n ps) :
    ∃ k, n ≤ k ∧ m.origin = some k := by
  induction ps generalizing n with
  | nil => cases h
  | cons p ps ih =>
    rcases List.mem_append.mp h with here | later
    · exact ⟨n, Nat.le_refl n, p.origin_of_mem_marks here⟩
    · obtain ⟨k, bound, origin⟩ := ih later
      exact ⟨k, by omega, origin⟩

theorem origin_of_mem_stack {lay : Nat → Layout} {ps : List Passage} {n : Nat} {m : Mark}
    (h : m ∈ stack lay n ps) : ∃ k, n ≤ k ∧ m.origin = some k := by
  induction ps generalizing n with
  | nil => cases h
  | cons p ps ih =>
    rcases List.mem_append.mp h with later | here
    · obtain ⟨k, bound, origin⟩ := ih later
      exact ⟨k, by omega, origin⟩
    · exact ⟨n, Nat.le_refl n, p.origin_of_mem_tableMarks here⟩

theorem origin_ne_of_mem {lay : Nat → Layout} {ps : List Passage} {k n : Nat} (earlier : k < n) :
    ∀ m ∈ flow n ps ++ stack lay n ps, m.origin ≠ some k := by
  intro m hm
  have bound : ∃ j, n ≤ j ∧ m.origin = some j := by
    rcases List.mem_append.mp hm with flowing | stacked
    · exact origin_of_mem_flow flowing
    · exact origin_of_mem_stack stacked
  obtain ⟨j, le, origin⟩ := bound
  intro same
  cases origin.symm.trans same
  omega

theorem apart_append {a b : Body} {m k : Nat} (front : ∀ x ∈ a, x.origin ≠ some k)
    (back : ∀ y ∈ b, y.origin ≠ some m) : Apart (a ++ b) m k := by
  rw [Apart, List.pairwise_append]
  refine ⟨?_, ?_, ?_⟩
  · apply List.pairwise_of_forall_mem_list
    intro x hx y _ same
    exact absurd same (front x hx)
  · apply List.pairwise_of_forall_mem_list
    intro x _ y hy _
    exact back y hy
  · intro x hx y _ same
    exact absurd same (front x hx)

/-- Marks of other edits around a document change nothing. -/
theorem Apart.between {b : Body} {m k : Nat} (h : Apart b m k) {a c : Body}
    (front : ∀ x ∈ a, x.origin ≠ some k) (back : ∀ y ∈ c, y.origin ≠ some m) :
    Apart (a ++ b ++ c) m k := by
  rw [List.append_assoc, Apart, List.pairwise_append, List.pairwise_append]
  refine ⟨?_, ⟨h, ?_, ?_⟩, ?_⟩
  · apply List.pairwise_of_forall_mem_list
    intro x hx y _ same
    exact absurd same (front x hx)
  · apply List.pairwise_of_forall_mem_list
    intro x _ y hy _
    exact back y hy
  · intro x _ y hy _
    exact back y hy
  · intro x hx y _ same
    exact absurd same (front x hx)

/-- `Lays`, without that anything was brought. -/
def Parted (b : Body) (x y : Insertion) : Prop :=
  if x.isTable then Apart b y.number x.number else Apart b x.number y.number

theorem isTable_of_inserts {p : Passage} {op : Operation} (h : p.Inserts op) :
    isTableInsertion op = true ∧ (∀ n, p.marks n = []) ∨
      isTableInsertion op = false ∧ ∀ lay n, p.tableMarks lay n = [] := by
  cases h with
  | text | pageBreak => exact .inr ⟨rfl, fun _ _ => rfl⟩
  | table => exact .inl ⟨rfl, fun _ => rfl⟩

theorem pairwise_parted (lay : Nat → Layout) (n : Nat) (c : Int) {ps : List Passage}
    (whole : ∀ p ∈ ps, p.Whole) :
    (insertions n (batch c ps)).Pairwise (Parted (flow n ps ++ stack lay n ps)) := by
  induction ps generalizing n c with
  | nil => exact .nil
  | cons p ps ih =>
    have head := whole p List.mem_cons_self
    have tail := ih (n + p.count) (c + p.width) fun q hq => whole q (List.mem_cons_of_mem _ hq)
    have count := Passage.count_pos head
    obtain ⟨op, insertion, inserts, _⟩ := p.exists_insertion head n c
    have body : flow n (p :: ps) ++ stack lay n (p :: ps) =
        p.marks n ++ (flow (n + p.count) ps ++ stack lay (n + p.count) ps) ++ p.tableMarks lay n := by
      simp only [flow, stack, List.append_assoc]
    have number : ∀ y ∈ insertions (n + p.count) (batch (c + p.width) ps), n ≠ y.number := by
      intro y hy
      obtain ⟨k, hk, _⟩ := exists_of_mem_insertions hy
      omega
    have others : ∀ m ∈ flow (n + p.count) ps ++ stack lay (n + p.count) ps, m.origin ≠ some n :=
      origin_ne_of_mem (by omega)
    have own : ∀ k, n ≠ k → (∀ m ∈ p.marks n, m.origin ≠ some k) ∧
        ∀ m ∈ p.tableMarks lay n, m.origin ≠ some k := by
      intro k other
      constructor
      · intro m hm
        rw [p.origin_of_mem_marks hm]
        simpa using other
      · intro m hm
        rw [p.origin_of_mem_tableMarks hm]
        simpa using other
    rw [batch, insertions_append, insertion, p.length_edits, List.singleton_append,
      List.pairwise_cons, body]
    constructor
    · intro y hy
      have other := own y.number (number y hy)
      -- the marks of the first passage stand at one end, all others at the other
      rcases isTable_of_inserts inserts with ⟨table, none⟩ | ⟨flows, none⟩
      · simp only [Parted, Insertion.isTable, table, ↓reduceIte, none, List.nil_append]
        exact apart_append others other.2
      · simp only [Parted, Insertion.isTable, flows, Bool.false_eq_true, ↓reduceIte, none,
          List.append_nil]
        exact apart_append other.1 others
    · refine tail.imp_of_mem ?_
      intro x y hx hy parted
      have aroundX := own x.number (number x hx)
      have aroundY := own y.number (number y hy)
      unfold Parted at parted ⊢
      split at parted
      · next table => exact if_pos table ▸ parted.between aroundX.1 aroundY.2
      · next flows => exact if_neg flows ▸ parted.between aroundY.1 aroundX.2

theorem newMarks_ne_nil (lay : Nat → Layout) (n : Nat) {p : Passage} {op : Operation}
    (whole : p.Whole) (h : p.Inserts op) : newMarks lay n op ≠ [] := by
  cases h with
  | text index content ranges =>
    have width := Text.width_pos whole.1
    rw [← length_textMarks n] at width
    exact List.length_pos_iff.mp width
  | pageBreak | table => exact List.cons_ne_nil _ _

theorem pairwise_lays_batch (lay : Nat → Layout) {start : Int} {old : List Content}
    {ps : List Passage} (first : 1 ≤ start) (last : start ≤ old.length + 1)
    (whole : ∀ p ∈ ps, p.Whole) :
    (insertions 0 (batch start ps)).Pairwise (Lays (outcome lay start ps old)) := by
  have fits : ∀ p ∈ ps, p.Fits := fun p hp => (whole p hp).fits
  have replayed := replay_batch lay first last fits
  have brought : ∀ x ∈ insertions 0 (batch start ps),
      broughtBy x.number (outcome lay start ps old) ≠ [] := by
    intro x hx
    obtain ⟨k, number, edit⟩ := exists_of_mem_insertions hx
    obtain ⟨p, hp, inserts⟩ : ∃ p ∈ ps, p.Inserts x.edit := by
      obtain ⟨i, hi, rfl⟩ := List.getElem_of_mem hx
      have pairs := forall₂_inserts 0 start whole
      have size := pairs.length_eq
      exact ⟨ps[i], List.getElem_mem _, (List.forall₂_iff_get.mp pairs).2 i (by omega) hi⟩
    rw [number, Nat.zero_add, broughtBy_replay (keeps_batch start ps) replayed edit]
    exact newMarks_ne_nil lay k (whole p hp) inserts
  have unmoved : ∀ (contents : List Content) (k : Nat), ∀ m ∈ before contents, m.origin ≠ some k := by
    intro contents k m hm
    obtain ⟨_, _, rfl⟩ := List.mem_map.mp hm
    exact nofun
  have body : outcome lay start ps old =
      before (front old start) ++ (flow 0 ps ++ stack lay 0 ps) ++ before (back old start) := by
    simp only [outcome, List.append_assoc]
  refine (pairwise_parted lay 0 start whole).imp_of_mem ?_
  intro x y hx hy parted
  unfold Parted at parted
  unfold Lays
  split
  · next table =>
    rw [if_pos table] at parted
    exact ⟨brought y hy, brought x hx, body ▸ parted.between (unmoved _ _) (unmoved _ _)⟩
  · next flows =>
    rw [if_neg flows] at parted
    exact ⟨brought x hx, brought y hy, body ▸ parted.between (unmoved _ _) (unmoved _ _)⟩

end Docwright.Replay
