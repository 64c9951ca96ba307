import Docwright.Proofs.Snapshot.Nearest
import Docwright.Table.Job
import Mathlib.Data.List.TakeWhile

/-!
Which table each job claims. It is the one that starts last among those that are left
(`Ranked.tableNear`), so that jobs and tables ranked from the end go together one by one, until the
jobs end, the tables end, or a job is not pending (`Ranked.claimFrom_eq`). Where a document has its
tables in order, the jobs claim the last ones (`Unclaimed.claimFrom`).
-/

namespace Docwright.Table

open Snapshot

/-- The job, bound to a table. -/
def Job.bind (j : Job) (t : Table) : Job :=
  { j with state := .resolved t }

def Job.isPending (j : Job) : Bool :=
  decide (j.state = .pending)

/-- Why a job gets no table: it is not pending, or there is none left. -/
def Job.hindrance (j : Job) : Obstacle :=
  if j.isPending then .notFound j.rows j.columns else .notPending j.state

/-- Each table starts in front of the one before it in the list. -/
def Falling (ts : List Table) : Prop :=
  ts.Pairwise fun t u => u.start < t.start

/-- Tables in document order, none of them where another one starts. -/
def Ascending (ts : List Table) : Prop :=
  ts.Pairwise fun t u => t.start < u.start

/-- The tables that no job has claimed yet, ranked from the end. -/
structure Ranked (s : Snapshot) (claimed : List Int) (free : List Table) : Prop where
  perm : free.Perm ((tables s).filter fun t => !claimed.contains t.start)
  falling : Falling free

namespace Ranked

variable {s : Snapshot} {claimed : List Int} {free : List Table} {t : Table}

theorem next (h : Ranked s claimed (t :: free)) : Ranked s (claimed ++ [t.start]) free where
  perm := by
    obtain ⟨before, _⟩ := List.pairwise_cons.mp h.falling
    have others : (t :: free).filter (fun u => u.start != t.start) = free := by
      rw [List.filter_cons_of_neg (by simp)]
      exact List.filter_eq_self.mpr fun u hu => bne_iff_ne.mpr (Int.ne_of_lt (before u hu))
    have left : (tables s).filter (fun u => !(claimed ++ [t.start]).contains u.start) =
        ((tables s).filter fun u => !claimed.contains u.start).filter fun u => u.start != t.start := by
      rw [List.filter_filter]
      congr 1
      funext u
      rw [Bool.eq_iff_iff]
      simp [and_comm]
    rw [left, ← others]
    exact h.perm.filter _
  falling := (List.pairwise_cons.mp h.falling).2

variable (near : ∀ t ∈ tables s, t.start ≤ farIndex)

include near

/-- The next job gets the table that starts last. -/
theorem tableNear (h : Ranked s claimed free) :
    Snapshot.tableNear s farIndex claimed = free.head? := by
  cases free with
  | nil => rw [Snapshot.tableNear, h.perm.nil_eq.symm]; rfl
  | cons t free =>
    obtain ⟨before, _⟩ := List.pairwise_cons.mp h.falling
    refine nearest_of_nearer (h.perm.subset List.mem_cons_self) fun u hu other => ?_
    rcases List.mem_cons.mp (h.perm.symm.subset hu) with same | hu'
    · exact absurd same other
    · have behind := before u hu'
      have first := near t (List.mem_filter.mp (h.perm.subset List.mem_cons_self)).1
      unfold Table.distance
      omega

theorem claim_of_cons (h : Ranked s claimed (t :: free)) {j : Job} (pending : j.isPending = true) :
    j.claim s farIndex claimed = .ok (t, j.bind t) := by
  have found := h.tableNear near
  simp only [Job.claim, of_decide_eq_true pending, found, List.head?_cons, Job.bind]

theorem claim_of_nil (h : Ranked s claimed []) (j : Job) :
    j.claim s farIndex claimed = .error j.hindrance := by
  have none := h.tableNear near
  cases state : j.state <;>
    simp only [Job.claim, Job.hindrance, Job.isPending, state, none, List.head?_nil, decide_true,
      decide_false, reduceCtorEq, Bool.false_eq_true, ↓reduceIte]

omit near in
theorem claim_of_not_pending {j : Job} (settled : ¬j.isPending = true) :
    j.claim s farIndex claimed = .error j.hindrance := by
  cases state : j.state with
  | pending => exact absurd (decide_eq_true state) settled
  | resolved | populated => simp only [Job.claim, Job.hindrance, if_neg settled, state]

/-- The jobs in front of the first one that is not pending go with the tables from the end on, as
far as there are both; the next job, if there is one, is hindered. -/
theorem claimFrom_eq (h : Ranked s claimed free) (js : List Job) :
    let ready := js.takeWhile Job.isPending
    let n := min ready.length free.length
    claimFrom s claimed js =
      (List.zipWith Job.bind ready free ++ js.drop n, js[n]?.map Job.hindrance) := by
  induction js generalizing claimed free with
  | nil => simp [claimFrom]
  | cons j js ih =>
    by_cases pending : j.isPending = true
    · cases free with
      | nil => simp [claimFrom, h.claim_of_nil near]
      | cons t free =>
        have rest := ih h.next
        simp only [claimFrom, h.claim_of_cons near pending, rest, List.takeWhile_cons_of_pos pending,
          List.length_cons, Nat.add_min_add_right, List.zipWith_cons_cons, List.drop_succ_cons,
          List.getElem?_cons_succ, List.cons_append]
    · simp [claimFrom, claim_of_not_pending pending, List.takeWhile_cons_of_neg pending]

/-- Where all jobs are pending and there are tables for them, they get the first ones of the ranking. -/
theorem claimFrom_of_pending {js : List Job} {chosen rest : List Table}
    (h : Ranked s claimed (chosen ++ rest)) (enough : chosen.length = js.length)
    (pending : ∀ j ∈ js, j.isPending = true) :
    claimFrom s claimed js = (List.zipWith Job.bind js chosen, none) := by
  have all : claimFrom s claimed js = _ := h.claimFrom_eq near js
  have few : min js.length (chosen ++ rest).length = js.length := by
    rw [List.length_append, enough]
    omega
  have first : List.zipWith Job.bind js (chosen ++ rest) = List.zipWith Job.bind js chosen :=
    calc List.zipWith Job.bind js (chosen ++ rest)
        = List.zipWith Job.bind (js ++ []) (chosen ++ rest) := by rw [List.append_nil]
      _ = List.zipWith Job.bind js chosen := by
        rw [List.zipWith_append enough.symm, List.zipWith_nil_left, List.append_nil]
  rw [List.takeWhile_eq_self_iff.mpr pending, few, first, List.drop_length, List.append_nil,
    List.getElem?_eq_none (Nat.le_refl _)] at all
  exact all

/-- Only then do all jobs get one. -/
theorem of_claimFrom {js bound : List Job} (h : Ranked s claimed free)
    (done : claimFrom s claimed js = (bound, none)) :
    ∃ chosen rest, free = chosen ++ rest ∧ chosen.length = js.length ∧
      bound = List.zipWith Job.bind js chosen := by
  have all : claimFrom s claimed js = _ := h.claimFrom_eq near js
  rw [done, Prod.mk.injEq] at all
  have reached : js.length ≤ min (js.takeWhile Job.isPending).length free.length :=
    List.getElem?_eq_none_iff.mp (Option.map_eq_none_iff.mp all.2.symm)
  have ready : js.takeWhile Job.isPending = js :=
    (List.takeWhile_prefix _).eq_of_length_le (by omega)
  have enough : (free.take js.length).length = js.length := by
    rw [List.length_take]
    omega
  have split : free = free.take js.length ++ free.drop js.length := (List.take_append_drop _ _).symm
  have again := (split ▸ h).claimFrom_of_pending near enough (List.takeWhile_eq_self_iff.mp ready)
  exact ⟨_, _, split, enough, (Prod.ext_iff.mp (done.symm.trans again)).1⟩

end Ranked

/-- The first tables of a document are free, the ones behind them have been claimed. -/
structure Unclaimed (s : Snapshot) (claimed : List Int) (free taken : List Table) : Prop where
  split : tables s = free ++ taken
  starts : ∀ i, i ∈ claimed ↔ i ∈ taken.map Table.start

section

variable {s : Snapshot} {claimed : List Int} {free taken : List Table}

theorem Unclaimed.initial (s : Snapshot) : Unclaimed s [] (tables s) [] where
  split := (List.append_nil _).symm
  starts := fun _ => Iff.rfl

variable (ascending : Ascending (tables s)) (bounded : ∀ t ∈ tables s, t.start ≤ farIndex)

include ascending

theorem Unclaimed.filter (h : Unclaimed s claimed free taken) :
    (tables s).filter (fun t => !claimed.contains t.start) = free := by
  rw [Ascending, h.split] at ascending
  obtain ⟨_, _, apart⟩ := List.pairwise_append.mp ascending
  have kept : ∀ t ∈ free, (!claimed.contains t.start) = true := by
    intro t ht
    rw [Bool.not_eq_true', List.contains_eq_mem, decide_eq_false_iff_not, h.starts]
    intro hc
    obtain ⟨u, hu, same⟩ := List.mem_map.mp hc
    have := apart t ht u hu
    omega
  have left : ∀ t ∈ taken, ¬(!claimed.contains t.start) = true := by
    intro t ht
    have hc : t.start ∈ claimed := (h.starts t.start).mpr (List.mem_map_of_mem ht)
    simp only [List.contains_eq_mem, hc, decide_true, Bool.not_true, Bool.false_eq_true,
      not_false_eq_true]
  rw [h.split, List.filter_append, List.filter_eq_self.mpr kept, List.filter_eq_nil_iff.mpr left,
    List.append_nil]

theorem Unclaimed.ranked (h : Unclaimed s claimed free taken) : Ranked s claimed free.reverse where
  perm := by
    rw [h.filter ascending]
    exact List.reverse_perm free
  falling := by
    rw [Ascending, h.split] at ascending
    exact List.pairwise_reverse.mpr (List.pairwise_append.mp ascending).1

include bounded

theorem Unclaimed.claimFrom {js : List Job} {chosen : List Table}
    (h : Unclaimed s claimed (free ++ chosen.reverse) taken) (enough : chosen.length = js.length)
    (pending : ∀ j ∈ js, j.state = .pending) :
    claimFrom s claimed js = (List.zipWith Job.bind js chosen, none) := by
  have ranked := h.ranked ascending
  rw [List.reverse_append, List.reverse_reverse] at ranked
  exact ranked.claimFrom_of_pending bounded enough fun j hj => decide_eq_true (pending j hj)

/-- Where all jobs get a table, they get the last ones, from the end of the document on. -/
theorem Unclaimed.of_claimFrom {js bound : List Job} (h : Unclaimed s claimed free taken)
    (done : Table.claimFrom s claimed js = (bound, none)) :
    ∃ kept chosen, free = kept ++ chosen.reverse ∧ chosen.length = js.length ∧
      bound = List.zipWith Job.bind js chosen := by
  obtain ⟨chosen, rest, split, enough, bind⟩ := (h.ranked ascending).of_claimFrom bounded done
  refine ⟨rest.reverse, chosen, ?_, enough, bind⟩
  rw [← List.reverse_append, ← split, List.reverse_reverse]

end

end Docwright.Table
