import Docwright.Proofs.Replay.Batch
import Docwright.Table.Job

/-!
Texts that are inserted from the last position to the first. No insertion moves a position that
comes later in the batch, so that each text ends up in front of what was at its position.
-/

namespace Docwright.Replay

open Table.Job (Insert)

section

variable {α : Type} {add add' : Int → List α} {i : Int}

/-- New elements in front of every position, the first of which is `i`. -/
def spread (add : Int → List α) (i : Int) : List α → List α
  | [] => []
  | x :: xs => add i ++ x :: spread add (i + 1) xs

theorem spread_append (add : Int → List α) (i : Int) (xs ys : List α) :
    spread add i (xs ++ ys) = spread add i xs ++ spread add (i + xs.length) ys := by
  induction xs generalizing i with
  | nil => simp [spread]
  | cons x xs ih =>
    have shift : i + 1 + (xs.length : Int) = i + (x :: xs).length := by
      simp only [List.length_cons]; omega
    simp only [List.cons_append, spread, ih, shift, List.append_assoc]

theorem spread_congr {xs : List α} (h : ∀ p, i ≤ p → p < i + xs.length → add p = add' p) :
    spread add i xs = spread add' i xs := by
  induction xs generalizing i with
  | nil => rfl
  | cons x xs ih =>
    have first := h i (Int.le_refl i) (by simp only [List.length_cons]; omega)
    have later : spread add (i + 1) xs = spread add' (i + 1) xs :=
      ih fun p hp hq => h p (by omega) (by simp only [List.length_cons]; omega)
    simp only [spread, first, later]

theorem spread_nil (i : Int) (xs : List α) : spread (fun _ => []) i xs = xs := by
  induction xs generalizing i with
  | nil => rfl
  | cons x xs ih => simp only [spread, ih, List.nil_append]

theorem spread_eq_self {xs : List α} (h : ∀ p, i ≤ p → p < i + xs.length → add p = []) :
    spread add i xs = xs :=
  (spread_congr h).trans (spread_nil i xs)

theorem map_spread {β : Type} (f : α → β) (xs : List α) :
    (spread add i xs).map f = spread (fun p => (add p).map f) i (xs.map f) := by
  induction xs generalizing i with
  | nil => rfl
  | cons x xs ih => simp only [spread, List.map_append, List.map_cons, ih]

theorem le_length_spread {xs : List α} {p : Int} (first : i ≤ p) (last : p < i + xs.length) :
    xs.length + (add p).length ≤ (spread add i xs).length := by
  have grows (j : Int) (ys : List α) : ys.length ≤ (spread add j ys).length := by
    induction ys generalizing j with
    | nil => exact Nat.le_refl _
    | cons y ys ih =>
      have := ih (j + 1)
      simp only [spread, List.length_append, List.length_cons]
      omega
  induction xs generalizing i with
  | nil => simp at last; omega
  | cons x xs ih =>
    simp only [spread, List.length_append, List.length_cons]
    by_cases here : i = p
    · subst here
      have := grows (i + 1) xs
      omega
    · have := @ih (i + 1) (by omega) (by simp only [List.length_cons] at last; omega)
      omega

/-- What stands in front of a position, at it and behind it. -/
theorem exists_around {xs : List α} {p : Int} (first : 1 ≤ p) (last : p ≤ xs.length) :
    ∃ a x c, xs = a ++ x :: c ∧ p = a.length + 1 := by
  have bound : (p - 1).toNat < xs.length := by omega
  refine ⟨xs.take (p - 1).toNat, xs[(p - 1).toNat], xs.drop ((p - 1).toNat + 1), ?_, ?_⟩
  · rw [← List.drop_eq_getElem_cons, List.take_append_drop]
  · rw [List.length_take]; omega

end

/-- Positions from the last to the first, none of them twice. -/
def Descending (inserts : List Insert) : Prop :=
  inserts.Pairwise fun a b => b.1 < a.1

/-- The text for a position. -/
def textAt : List Insert → Int → String
  | [], _ => ""
  | i :: is, p => if i.1 = p then i.2 else textAt is p

/-- The marks that stand in front of a position when the first of the insertions is edit `n`. -/
def added (n : Nat) : List Insert → Int → Body
  | [], _ => []
  | i :: is, p => if i.1 = p then textMarks n i.2 else added (n + 1) is p

theorem textAt_eq_empty {inserts : List Insert} {p : Int} (h : ∀ i ∈ inserts, i.1 ≠ p) :
    textAt inserts p = "" := by
  induction inserts with
  | nil => rfl
  | cons i is ih =>
    have head := h i List.mem_cons_self
    simp only [textAt, head, ↓reduceIte]
    exact ih fun k hk => h k (List.mem_cons_of_mem _ hk)

theorem textAt_of_mem {inserts : List Insert} (ordered : Descending inserts) {i : Insert}
    (hi : i ∈ inserts) : textAt inserts i.1 = i.2 := by
  induction inserts with
  | nil => cases hi
  | cons k ks ih =>
    obtain ⟨below, rest⟩ := List.pairwise_cons.mp ordered
    rcases List.mem_cons.mp hi with rfl | hi
    · simp only [textAt, ↓reduceIte]
    · have apart : k.1 ≠ i.1 := by
        have := below i hi
        omega
      simp only [textAt, apart, ↓reduceIte]
      exact ih rest hi

/-- Empty texts make no difference. -/
theorem textAt_filter {inserts : List Insert} (ordered : Descending inserts) (p : Int) :
    textAt (inserts.filter (·.2 ≠ "")) p = textAt inserts p := by
  induction inserts with
  | nil => rfl
  | cons i is ih =>
    obtain ⟨below, rest⟩ := List.pairwise_cons.mp ordered
    have tail := ih rest
    by_cases empty : i.2 = ""
    · rw [List.filter_cons_of_neg (by simp [empty]), tail, textAt]
      split
      · rename_i here
        rw [empty]
        apply textAt_eq_empty
        intro k hk
        have := below k hk
        omega
      · rfl
    · rw [List.filter_cons_of_pos (by simp [empty]), textAt, textAt, tail]

theorem contents_added (n : Nat) (inserts : List Insert) (p : Int) :
    contents (added n inserts p) = textContents (textAt inserts p) := by
  induction inserts generalizing n with
  | nil => rfl
  | cons i is ih =>
    by_cases here : i.1 = p
    · simp only [added, textAt, here, ↓reduceIte, contents_textMarks]
    · simp only [added, textAt, here, ↓reduceIte, ih]

theorem added_eq_nil {n : Nat} {inserts : List Insert} {p : Int} (h : ∀ i ∈ inserts, i.1 ≠ p) :
    added n inserts p = [] := by
  induction inserts generalizing n with
  | nil => rfl
  | cons i is ih =>
    have head := h i List.mem_cons_self
    simp only [added, head, ↓reduceIte]
    exact ih fun k hk => h k (List.mem_cons_of_mem _ hk)

/-- The first of the insertions is the last one in the document. -/
theorem spread_added (n : Nat) {i : Insert} {is : List Insert} (below : ∀ k ∈ is, k.1 < i.1)
    {a : Body} (m : Mark) (c : Body) (start : i.1 = a.length + 1) :
    spread (added n (i :: is)) 1 (a ++ m :: c) =
      spread (added (n + 1) is) 1 a ++ (textMarks n i.2 ++ m :: c) := by
  have front : spread (added n (i :: is)) 1 a = spread (added (n + 1) is) 1 a := by
    apply spread_congr
    intro p _ hp
    have : i.1 ≠ p := by omega
    simp only [added, this, ↓reduceIte]
  have here : added n (i :: is) (1 + a.length) = textMarks n i.2 := by
    have : i.1 = 1 + a.length := by omega
    simp only [added, this, ↓reduceIte]
  have behind : spread (added n (i :: is)) (1 + a.length + 1) c = c := by
    apply spread_eq_self
    intro p hp _
    apply added_eq_nil
    intro k hk
    rcases List.mem_cons.mp hk with rfl | hk
    · omega
    · have := below k hk
      omega
  rw [spread_append, front, spread, here, behind]

/-- A mark in front of a position comes from an insertion at that position. -/
theorem origin_of_mem_added {n : Nat} {inserts : List Insert} {p : Int} {m : Mark}
    (hm : m ∈ added n inserts p) :
    ∃ k i, inserts[k]? = some i ∧ i.1 = p ∧ m.origin = some (n + k) := by
  induction inserts generalizing n with
  | nil => cases hm
  | cons i is ih =>
    by_cases here : i.1 = p
    · simp only [added, here, ↓reduceIte] at hm
      exact ⟨0, i, rfl, here, origin_of_mem_textMarks hm⟩
    · simp only [added, here, ↓reduceIte] at hm
      obtain ⟨k, e, he, there, origin⟩ := ih hm
      exact ⟨k + 1, e, he, there, by rw [origin, Nat.add_assoc, Nat.add_comm 1 k]⟩

theorem origin_of_mem_spread {inserts : List Insert} {i : Int} {xs : List Content} {m : Mark}
    {k : Nat} (hm : m ∈ spread (added 0 inserts) i (before xs)) (ho : m.origin = some k) :
    ∃ e, inserts[k]? = some e ∧ i ≤ e.1 ∧ e.1 < i + xs.length := by
  induction xs generalizing i with
  | nil => cases hm
  | cons x xs ih =>
    have later : m ∈ spread (added 0 inserts) (i + 1) (before xs) →
        ∃ e, inserts[k]? = some e ∧ i ≤ e.1 ∧ e.1 < i + (x :: xs).length := by
      intro h
      obtain ⟨e, he, first, last⟩ := ih h
      refine ⟨e, he, by omega, ?_⟩
      simp only [List.length_cons]
      omega
    rcases List.mem_append.mp hm with hm | hm
    · obtain ⟨k', e, he, here, origin⟩ := origin_of_mem_added hm
      rw [ho, Nat.zero_add, Option.some.injEq] at origin
      subst origin
      refine ⟨e, he, by omega, ?_⟩
      simp only [List.length_cons]
      omega
    · rcases List.mem_cons.mp hm with rfl | hm
      · cases ho
      · exact later hm

theorem added_of_getElem? {n k : Nat} {inserts : List Insert} (ordered : Descending inserts)
    {i : Insert} (hi : inserts[k]? = some i) : added n inserts i.1 = textMarks (n + k) i.2 := by
  induction inserts generalizing n k with
  | nil => cases hi
  | cons e es ih =>
    obtain ⟨below, rest⟩ := List.pairwise_cons.mp ordered
    cases k with
    | zero =>
      cases hi
      simp only [added, ↓reduceIte, Nat.add_zero]
    | succ k =>
      have apart : e.1 ≠ i.1 := by
        have := below i (List.mem_of_getElem? hi)
        omega
      simp only [added, apart, ↓reduceIte]
      rw [ih rest hi, Nat.add_assoc, Nat.add_comm 1 k]

/-- Insertions in descending order put each text in front of what was at its position. -/
theorem replayFrom_inserts (lay : Nat → Layout) (n : Nat) (b rest : Body) {inserts : List Insert}
    (ordered : Descending inserts) (inside : ∀ i ∈ inserts, 1 ≤ i.1 ∧ i.1 ≤ b.length) :
    replayFrom lay n (b ++ rest) (inserts.map Insert.operation) =
      some (spread (added n inserts) 1 b ++ rest) := by
  induction inserts generalizing n b rest with
  | nil => simp only [List.map_nil, replayFrom, added, spread_nil]
  | cons i is ih =>
    obtain ⟨below, later⟩ := List.pairwise_cons.mp ordered
    obtain ⟨first, last⟩ := inside i List.mem_cons_self
    obtain ⟨a, m, c, rfl, start⟩ := exists_around first last
    have inserted : carryOut lay n (a ++ m :: c ++ rest) i.operation =
        some (a ++ (textMarks n i.2 ++ m :: c ++ rest)) := by
      have spliced := splice_between a (textMarks n i.2) (m :: c ++ rest) i.1 start
      simpa only [Insert.operation, carryOut, List.append_assoc] using spliced
    have remaining := ih (n + 1) a (textMarks n i.2 ++ m :: c ++ rest) later fun k hk => by
      have := below k hk
      have := (inside k (List.mem_cons_of_mem _ hk)).1
      omega
    rw [List.map_cons, replayFrom, inserted, Option.bind_some, remaining,
      spread_added n below m c start]
    simp only [List.append_assoc]

/-- The document after texts have been inserted in descending order, the empty ones left out. -/
theorem replay_texts (lay : Nat → Layout) {old : List Content} {inserts : List Insert}
    (ordered : Descending inserts) (inside : ∀ i ∈ inserts, 1 ≤ i.1 ∧ i.1 ≤ old.length) :
    ∃ final, replay lay ((inserts.filter (·.2 ≠ "")).map Insert.operation) old = some final ∧
      contents final = spread (fun p => textContents (textAt inserts p)) 1 old := by
  have kept : ∀ i ∈ inserts.filter (·.2 ≠ ""), 1 ≤ i.1 ∧ i.1 ≤ (before old).length := by
    intro i hi
    rw [length_before]
    exact inside i (List.mem_filter.mp hi).1
  have replayed := replayFrom_inserts lay 0 (before old) [] (ordered.filter _) kept
  rw [List.append_nil, List.append_nil] at replayed
  refine ⟨_, replayed, ?_⟩
  rw [contents, map_spread]
  congr 1
  · funext p
    rw [← textAt_filter ordered p]
    exact contents_added 0 _ p
  · exact contents_before old

end Docwright.Replay
