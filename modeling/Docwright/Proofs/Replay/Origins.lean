import Docwright.Proofs.Replay.Writing

/-!
Which marks an edit has brought. An edit that takes nothing out of a document leaves the marks of
all others as they are, in their order, so that in the end the marks of each edit are still exactly
those that it inserted (`broughtBy_replay`). A range over a whole text therefore still covers all
that the insertion of the text has brought, and nothing else (`setsAll_batch`).
-/

namespace Docwright.Replay

open Edit

/-- Edits that take nothing out of a document. -/
def Keeps : Operation → Prop
  | .delete _ | .replaceAll .. => False
  | _ => True

/-- The marks that edit `n` inserts. -/
def newMarks (lay : Nat → Layout) (n : Nat) : Operation → Body
  | .insertText _ text => textMarks n text
  | .insertPageBreak _ => breakMarks n
  | .insertTable _ rows columns => tableMarks n rows columns (lay n)
  | _ => []

/-- The marks of a document that edit `n` has brought. -/
def broughtBy (n : Nat) (b : Body) : Body :=
  b.filter (·.origin = some n)

variable {lay : Nat → Layout} {k n : Nat} {b c : Body} {op : Operation} {ops : List Operation}

theorem keeps_over (s : Span) (f : Format) : Keeps (f.over s) := by
  cases f <;> exact trivial

theorem origin_of_mem_newMarks {m : Mark} (h : m ∈ newMarks lay n op) : m.origin = some n := by
  cases op with
  | insertText => exact origin_of_mem_textMarks h
  | insertPageBreak => rw [List.eq_of_mem_replicate h]
  | insertTable =>
    rcases List.mem_cons.mp h with rfl | h
    · rfl
    · rw [List.eq_of_mem_replicate h]
  | nameParagraphs | styleText | createList | delete | formatParagraphs | replaceAll => cases h

theorem exists_of_splice {index : Int} {new : Body} (h : splice b index new = some c) :
    ∃ front back, b = front ++ back ∧ c = front ++ new ++ back := by
  unfold splice at h
  split at h
  · exact ⟨_, _, (List.take_append_drop (index - 1).toNat b).symm, (Option.some.inj h).symm⟩
  · cases h

/-- All that such an edit can do. -/
theorem exists_of_carryOut (keeps : Keeps op) (h : carryOut lay n b op = some c) :
    ∃ front back, b = front ++ back ∧ c = front ++ newMarks lay n op ++ back := by
  cases op with
  | insertText | insertPageBreak | insertTable => exact exists_of_splice h
  | delete | replaceAll => exact absurd keeps id
  | nameParagraphs | styleText | createList | formatParagraphs =>
    simp only [carryOut, Option.ite_none_right_eq_some, Option.some.injEq] at h
    obtain ⟨_, rfl⟩ := h
    exact ⟨b, [], (List.append_nil b).symm, by simp only [newMarks, List.append_nil]⟩

theorem broughtBy_append (n : Nat) (a b : Body) :
    broughtBy n (a ++ b) = broughtBy n a ++ broughtBy n b :=
  List.filter_append a b

theorem broughtBy_newMarks_self (lay : Nat → Layout) (n : Nat) (op : Operation) :
    broughtBy n (newMarks lay n op) = newMarks lay n op := by
  apply List.filter_eq_self.mpr
  intro m hm
  simpa using origin_of_mem_newMarks hm

theorem broughtBy_newMarks_of_ne (lay : Nat → Layout) (op : Operation) (h : k ≠ n) :
    broughtBy k (newMarks lay n op) = [] := by
  apply List.filter_eq_nil_iff.mpr
  intro m hm
  rw [origin_of_mem_newMarks hm]
  simpa using Ne.symm h

theorem broughtBy_before (n : Nat) (old : List Content) : broughtBy n (before old) = [] := by
  apply List.filter_eq_nil_iff.mpr
  intro m hm
  obtain ⟨_, _, rfl⟩ := List.mem_map.mp hm
  simp only [reduceCtorEq, decide_false, Bool.false_eq_true, not_false_eq_true]

theorem broughtBy_carryOut_of_ne (keeps : Keeps op) (h : carryOut lay n b op = some c)
    (other : k ≠ n) : broughtBy k c = broughtBy k b := by
  obtain ⟨front, back, rfl, rfl⟩ := exists_of_carryOut keeps h
  simp only [broughtBy_append, broughtBy_newMarks_of_ne lay op other, List.append_nil]

theorem broughtBy_carryOut_self (keeps : Keeps op) (h : carryOut lay n b op = some c)
    (fresh : broughtBy n b = []) : broughtBy n c = newMarks lay n op := by
  obtain ⟨front, back, rfl, rfl⟩ := exists_of_carryOut keeps h
  rw [broughtBy_append, List.append_eq_nil_iff] at fresh
  simp only [broughtBy_append, fresh, broughtBy_newMarks_self, List.nil_append, List.append_nil]

/-- Later edits leave the marks of an earlier one alone. -/
theorem broughtBy_replayFrom_of_lt (keeps : ∀ op ∈ ops, Keeps op)
    (h : replayFrom lay n b ops = some c) (earlier : k < n) : broughtBy k c = broughtBy k b := by
  induction ops generalizing n b with
  | nil =>
    cases h
    rfl
  | cons op ops ih =>
    obtain ⟨next, first, rest⟩ := Option.bind_eq_some_iff.mp h
    have here := broughtBy_carryOut_of_ne (keeps op List.mem_cons_self) first (k := k) (by omega)
    rw [ih (fun o ho => keeps o (List.mem_cons_of_mem _ ho)) rest (by omega), here]

theorem broughtBy_replayFrom (keeps : ∀ op ∈ ops, Keeps op) (h : replayFrom lay n b ops = some c)
    (fresh : broughtBy (n + k) b = []) (edit : ops[k]? = some op) :
    broughtBy (n + k) c = newMarks lay (n + k) op := by
  induction ops generalizing n k b with
  | nil => cases edit
  | cons o ops ih =>
    obtain ⟨next, first, rest⟩ := Option.bind_eq_some_iff.mp h
    have keeps' : ∀ o' ∈ ops, Keeps o' := fun o' ho => keeps o' (List.mem_cons_of_mem _ ho)
    have head := keeps o List.mem_cons_self
    cases k with
    | zero =>
      cases edit
      rw [broughtBy_replayFrom_of_lt keeps' rest (by omega), Nat.add_zero]
      exact broughtBy_carryOut_self head first fresh
    | succ k =>
      have shift : n + (k + 1) = n + 1 + k := by omega
      rw [shift] at fresh ⊢
      refine ih keeps' rest ?_ edit
      rw [broughtBy_carryOut_of_ne head first (by omega), fresh]

theorem broughtBy_replay {old : List Content} {final : Body} (keeps : ∀ op ∈ ops, Keeps op)
    (h : replay lay ops old = some final) (edit : ops[k]? = some op) :
    broughtBy k final = newMarks lay k op := by
  have all := broughtBy_replayFrom (k := k) keeps h (broughtBy_before _ old) edit
  rwa [Nat.zero_add] at all

theorem Passage.keeps_edits (p : Passage) (c : Int) : ∀ op ∈ p.edits c, Keeps op := by
  cases p with
  | text content ranges =>
    intro op hop
    rcases List.mem_append.mp hop with insertion | range
    · split at insertion
      · cases insertion
      · rw [List.mem_singleton.mp insertion]
        trivial
    · obtain ⟨r, _, rfl⟩ := List.mem_map.mp range
      exact keeps_over _ _
  | pageBreak | table =>
    intro op hop
    rw [List.mem_singleton.mp hop]
    trivial

theorem keeps_batch (c : Int) (ps : List Passage) : ∀ op ∈ batch c ps, Keeps op := by
  induction ps generalizing c with
  | nil => exact List.forall_mem_nil _
  | cons p ps ih =>
    intro op hop
    rcases List.mem_append.mp hop with here | later
    · exact p.keeps_edits c op here
    · exact ih _ op later

theorem whole_targets {offset : Nat} {ps : List Passage} (h : ∀ p ∈ ps, p.Whole) :
    ∀ t ∈ targets offset ps, IsWhole t.text t.range := by
  induction ps generalizing offset with
  | nil => exact List.forall_mem_nil _
  | cons p ps ih =>
    intro t ht
    rcases List.mem_append.mp ht with here | later
    · have whole := h p List.mem_cons_self
      cases p with
      | pageBreak | table => cases here
      | text content ranges =>
        obtain ⟨r, hr, rfl⟩ := List.mem_map.mp here
        exact whole.2 r hr
    · exact ih (fun q hq => h q (List.mem_cons_of_mem _ hq)) t later

/-- Range edit `e` of the batch `ops` sets all that the insertion of one text has brought to the
document, and nothing else. -/
structure SetsAll (ops : List Operation) (start : Int) (final : Body) (e : RangeEdit) (t : Target) :
    Prop where
  format : e.format = t.range.format
  inserted : ∃ m < e.number, ops[m]? = some (.insertText (start + t.offset) t.text) ∧
    slice final e.span = broughtBy m final ∧ contents (slice final e.span) = textContents t.text

theorem setsAll_of_delimits {old : List Content} {start : Int} {final : Body} {e : RangeEdit}
    {t : Target} (keeps : ∀ op ∈ ops, Keeps op) (replayed : replay lay ops old = some final)
    (h : Delimits lay ops old start final e t) (whole : IsWhole t.text t.range) :
    SetsAll ops start final e t := by
  obtain ⟨m, earlier, insertion, covered, _⟩ := h.made
  obtain ⟨format, range⟩ := whole
  have all : slice final e.span = textMarks m t.text := by
    rw [covered, range, Ranged.whole, List.drop_zero, ← length_textMarks m t.text, List.take_length]
  refine ⟨h.format, m, earlier, insertion, ?_, ?_⟩
  · rw [all, broughtBy_replay keeps replayed insertion]
    rfl
  · rw [all, contents_textMarks]

theorem forall₂_of_mem_right {α β : Type} {R S : α → β → Prop} {xs : List α} {ys : List β}
    (h : List.Forall₂ R xs ys) (step : ∀ x, ∀ y ∈ ys, R x y → S x y) : List.Forall₂ S xs ys := by
  induction h with
  | nil => exact .nil
  | cons head _ ih =>
    exact .cons (step _ _ List.mem_cons_self head)
      (ih fun x y hy => step x y (List.mem_cons_of_mem _ hy))

theorem setsAll_batch (lay : Nat → Layout) {start : Int} {old : List Content} {ps : List Passage}
    (first : 1 ≤ start) (last : start ≤ old.length + 1) (whole : ∀ p ∈ ps, p.Whole) :
    List.Forall₂ (SetsAll (batch start ps) start (outcome lay start ps old))
      (rangeEdits 0 (batch start ps)) (targets 0 ps) := by
  have fits : ∀ p ∈ ps, p.Fits := fun p hp => (whole p hp).fits
  have replayed := replay_batch lay first last fits
  have delimited := delimits_batch lay first last fits
  have wholes : ∀ t ∈ targets 0 ps, IsWhole t.text t.range := whole_targets whole
  exact forall₂_of_mem_right delimited fun e t ht h =>
    setsAll_of_delimits (keeps_batch start ps) replayed h (wholes t ht)

end Docwright.Replay
