import Docwright.Proofs.Table.Claiming
import Docwright.Proofs.Writer.Population
import Mathlib

namespace Docwright.Table

open Snapshot (Table tables farIndex)

/-- The tables of a document, the one that starts last coming first. -/
def fromEnd (s : Snapshot) : List Table :=
  (tables s).mergeSort fun t u => u.start ≤ t.start

theorem fromEnd_perm (s : Snapshot) : (fromEnd s).Perm (tables s) :=
  List.mergeSort_perm _ _

theorem length_fromEnd (s : Snapshot) : (fromEnd s).length = (tables s).length :=
  (fromEnd_perm s).length_eq

theorem falling_fromEnd {s : Snapshot} (apart : ((tables s).map Table.start).Nodup) :
    Falling (fromEnd s) := by
  have sorted : (fromEnd s).Pairwise fun t u => decide (u.start ≤ t.start) = true :=
    List.pairwise_mergeSort (by simp only [decide_eq_true_eq]; omega)
      (by simp only [Bool.or_eq_true, decide_eq_true_eq]; omega) (tables s)
  have distinct : ((fromEnd s).map Table.start).Nodup :=
    ((fromEnd_perm s).map Table.start).nodup_iff.mpr apart
  refine (sorted.and (List.pairwise_map.mp distinct)).imp fun {t u} h => ?_
  have behind := of_decide_eq_true h.1
  have other := h.2
  omega

/-- As many tables start behind a table of a falling list as stand in front of it there. -/
theorem Falling.countP_behind {ts : List Table} (h : Falling ts) {k : Nat} {t : Table}
    (here : ts[k]? = some t) : ts.countP (fun u => decide (t.start < u.start)) = k := by
  obtain ⟨bound, rfl⟩ := List.getElem?_eq_some_iff.mp here
  have parts : ts = ts.take k ++ ts[k] :: ts.drop (k + 1) := by
    rw [← List.drop_eq_getElem_cons bound, List.take_append_drop]
  have split := h
  rw [Falling, parts] at split
  obtain ⟨_, behind, across⟩ := List.pairwise_append.mp split
  have early : (ts.take k).countP (fun u => decide (ts[k].start < u.start)) = k := by
    rw [List.countP_eq_length.mpr fun u hu => decide_eq_true (across u hu _ List.mem_cons_self),
      List.length_take, Nat.min_eq_left (Nat.le_of_lt bound)]
  have late : (ts[k] :: ts.drop (k + 1)).countP (fun u => decide (ts[k].start < u.start)) = 0 := by
    refine List.countP_eq_zero.mpr fun u hu => ?_
    rw [decide_eq_true_eq]
    rcases List.mem_cons.mp hu with rfl | hu
    · omega
    · have := (List.pairwise_cons.mp behind).1 u hu
      omega
  calc ts.countP (fun u => decide (ts[k].start < u.start))
      = (ts.take k ++ ts[k] :: ts.drop (k + 1)).countP (fun u => decide (ts[k].start < u.start)) := by
        rw [← parts]
    _ = k := by rw [List.countP_append, early, late, Nat.add_zero]

theorem Ranked.initial {s : Snapshot} (apart : ((tables s).map Table.start).Nodup) :
    Ranked s [] (fromEnd s) where
  perm := by
    have all : (tables s).filter (fun t => !([] : List Int).contains t.start) = tables s :=
      List.filter_eq_self.mpr fun _ _ => rfl
    rw [all]
    exact fromEnd_perm s
  falling := falling_fromEnd apart

section

variable {s : Snapshot} (apart : ((tables s).map Table.start).Nodup)
  (near : ∀ t ∈ tables s, t.start ≤ farIndex)

include apart

theorem kth_fromEnd {k : Nat} {t : Table} (here : (fromEnd s)[k]? = some t) :
    t ∈ tables s ∧ (tables s).countP (fun u => decide (t.start < u.start)) = k := by
  refine ⟨(fromEnd_perm s).subset (List.mem_of_getElem? here), ?_⟩
  rw [← (fromEnd_perm s).countP_eq]
  exact (falling_fromEnd apart).countP_behind here

include near

theorem claimAll_of_ready (ready rest : List Job) (pending : ∀ j ∈ ready, j.state = .pending)
    (settled : ∀ j ∈ rest.head?, j.state ≠ .pending) :
    let n := min ready.length (tables s).length
    claimAll s (ready ++ rest) = (List.zipWith Job.bind ready (fromEnd s) ++ (ready ++ rest).drop n,
      (ready ++ rest)[n]?.map Job.hindrance) := by
  have passes : ∀ j ∈ ready, j.isPending = true := fun j hj => decide_eq_true (pending j hj)
  have front : (ready ++ rest).takeWhile Job.isPending = ready := by
    rw [List.takeWhile_append_of_pos passes]
    cases rest with
    | nil => simp
    | cons j after =>
      have stops : ¬j.isPending = true := fun h => settled j rfl (of_decide_eq_true h)
      rw [List.takeWhile_cons_of_neg stops, List.append_nil]
  have all := (Ranked.initial apart).claimFrom_eq near (ready ++ rest)
  rw [front, length_fromEnd] at all
  exact all

/-- Jobs claim the tables of a document from its end on, in whatever order it lists them: job `k` the
table that has `k` tables behind it. Where there are fewer tables than jobs, the jobs in front have
them all, and the first one without a table stops the claiming, as does the first job that is not
pending. It and those behind it are left as they were, and no job is changed but for its state. -/
theorem jobs_claim_from_end (js : List Job) :
    (∀ k t, (fromEnd s)[k]? = some t →
      t ∈ tables s ∧ (tables s).countP (fun u => decide (t.start < u.start)) = k) ∧
    (claimAll s js).1.map Job.released = js.map Job.released ∧
    ((∀ j ∈ js, j.state = .pending) → js.length ≤ (tables s).length →
      claimAll s js = (List.zipWith Job.bind js (fromEnd s), none)) ∧
    ((∀ j ∈ js, j.state = .pending) → (tables s).length < js.length →
      ∃ j, js[(tables s).length]? = some j ∧ claimAll s js =
        (List.zipWith Job.bind js (fromEnd s) ++ js.drop (tables s).length,
          some (.notFound j.rows j.columns))) ∧
    ∀ before j after, js = before ++ j :: after → (∀ i ∈ before, i.state = .pending) →
      j.state ≠ .pending → before.length ≤ (tables s).length →
      claimAll s js =
        (List.zipWith Job.bind before (fromEnd s) ++ j :: after, some (.notPending j.state)) := by
  have ready (pending : ∀ j ∈ js, j.state = .pending) :=
    claimAll_of_ready apart near js [] pending nofun
  refine ⟨fun k t => kth_fromEnd apart, released_claimFrom s [] js, fun pending enough => ?_,
    fun pending few => ?_, ?_⟩
  · have claimed := ready pending
    rw [List.append_nil, Nat.min_eq_left enough] at claimed
    simpa using claimed
  · have claimed := ready pending
    rw [List.append_nil, Nat.min_eq_right (Nat.le_of_lt few)] at claimed
    have without : js[(tables s).length].isPending = true :=
      decide_eq_true (pending _ (List.getElem_mem few))
    refine ⟨_, List.getElem?_eq_getElem few, ?_⟩
    rw [claimed, List.getElem?_eq_getElem few, Option.map_some, Job.hindrance, if_pos without]
  · rintro before j after rfl pending settled enough
    have claimed := claimAll_of_ready apart near before (j :: after) pending (by simpa using settled)
    have stops : ¬j.isPending = true := fun h => settled (of_decide_eq_true h)
    rw [Nat.min_eq_left enough] at claimed
    rw [claimed, List.drop_left, List.getElem?_append_right (Nat.le_refl _), Nat.sub_self,
      List.getElem?_cons_zero, Option.map_some, Job.hindrance, if_neg stops]

end

/-- The document lists the table that starts last in the middle. -/
def scattered : Snapshot :=
  let table (start : Int) : Snapshot.Element :=
    ⟨some start, some (start + 6), none, some ⟨some 1, some 1, [[[some (start + 3)]]]⟩⟩
  [table 12, table 30, table 2]

def headedJob (header : String) : Job where
  rows := 1
  columns := 1
  headers := [header]
  data := []

def filledJob : Job :=
  { headedJob "C" with state := .populated ⟨2, 8, 1, 1, [[some 5]]⟩ }

theorem scattered_tables_claimed : (fromEnd scattered).map Table.start = [30, 12, 2] ∧
    claimAll scattered [headedJob "A", headedJob "B"] =
      (List.zipWith Job.bind [headedJob "A", headedJob "B"] (fromEnd scattered), none) ∧
    claimAll scattered (List.replicate 4 (headedJob "A")) =
      (List.zipWith Job.bind (List.replicate 4 (headedJob "A")) (fromEnd scattered) ++
        [headedJob "A"], some (.notFound 1 1)) ∧
    claimAll scattered [headedJob "A", filledJob, headedJob "B"] =
      (List.zipWith Job.bind [headedJob "A"] (fromEnd scattered) ++ [filledJob, headedJob "B"],
        some (.notPending filledJob.state)) := by
  have apart : ((tables scattered).map Table.start).Nodup := by decide
  have near : ∀ t ∈ tables scattered, t.start ≤ farIndex := by decide
  have claimed := jobs_claim_from_end apart near
  refine ⟨by cbv, ?_, ?_, ?_⟩
  · exact (claimed _).2.2.1 (by decide) (by decide)
  · obtain ⟨j, fourth, stopped⟩ :=
      (claimed (List.replicate 4 (headedJob "A"))).2.2.2.1 (by decide) (by decide)
    cases fourth
    exact stopped
  · exact (claimed _).2.2.2.2 [headedJob "A"] filledJob [headedJob "B"] rfl (by decide) (by decide)
      (by decide)

end Docwright.Table
