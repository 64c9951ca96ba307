import Docwright.Proofs.Table.Claiming
import Docwright.Proofs.Table.Inserts

namespace Docwright.Table

open Snapshot (Table tables farIndex)
open Edit Replay Job

/-- Cells stand inside of their table, each behind the one before it. -/
structure Regular (t : Table) : Prop where
  ascending : (positions t).Pairwise (· < ·)
  inside : ∀ p ∈ positions t, t.start ≤ p ∧ p < t.stop

/-- A snapshot of a document with `size` marks: its tables stand in order, one behind the other. -/
structure WellFormed (s : Snapshot) (size : Nat) : Prop where
  apart : (tables s).Pairwise fun t u => t.start < u.start ∧ t.stop ≤ u.start
  regular : ∀ t ∈ tables s, Regular t
  inside : ∀ t ∈ tables s, 1 ≤ t.start ∧ t.stop ≤ size + 1
  near : ∀ t ∈ tables s, t.start ≤ farIndex

/-- What is written in front of each position: the value of its cell, if the table of the cell has
a job, and nothing anywhere else. -/
structure Fills (s : Snapshot) (bound : List Job) (v : Int → String) : Prop where
  cell : ∀ j ∈ bound, ∀ t, j.state = .resolved t → ∀ row column p,
    t.position? row column = some p → v p = j.valueAt row column
  other : ∀ t ∈ tables s, (∀ j ∈ bound, j.state ≠ .resolved t) → ∀ p ∈ positions t, v p = ""
  elsewhere : ∀ p, (∀ t ∈ tables s, p ∉ positions t) → v p = ""

def isInsertion : Operation → Bool
  | .insertText .. => true
  | _ => false

theorem filter_fill {t : Table} (ascending : (positions t).Pairwise (· < ·)) (j : Job) :
    (j.fill t).filter isInsertion =
      ((cellsOf j t).filter (·.2 ≠ "")).map Insert.operation := by
  have insertions : ∀ op ∈ ((cellsOf j t).filter (·.2 ≠ "")).map Insert.operation,
      isInsertion op = true := by
    intro op hop
    obtain ⟨i, _, rfl⟩ := List.mem_map.mp hop
    rfl
  have styles : ∀ op ∈ (j.headerInserts t).map headerStyle, ¬isInsertion op = true := by
    intro op hop
    obtain ⟨i, _, rfl⟩ := List.mem_map.mp hop
    exact Bool.false_ne_true
  rw [fill, descending_inserts ascending, List.filter_append, List.filter_eq_self.mpr insertions,
    List.filter_eq_nil_iff.mpr styles, List.append_nil]

section

variable {s : Snapshot} {size : Nat} (formed : WellFormed s size)

include formed

theorem WellFormed.ascending : Ascending (tables s) :=
  formed.apart.imp fun h => h.1

/-- Different tables have no position in common. -/
theorem WellFormed.position_unique {t u : Table} (ht : t ∈ tables s) (hu : u ∈ tables s) {p : Int}
    (inT : p ∈ positions t) (inU : p ∈ positions u) : t = u := by
  have before : (tables s).Pairwise fun t u => p ∈ positions t → p ∈ positions u → t = u := by
    refine formed.apart.imp_of_mem ?_
    intro t u ht hu h inT inU
    have := (formed.regular t ht).inside p inT
    have := (formed.regular u hu).inside p inU
    omega
  have after : (tables s).Pairwise (flip fun t u => p ∈ positions t → p ∈ positions u → t = u) :=
    before.imp fun h inU inT => (h inT inU).symm
  exact before.forall_of_forall_of_flip (fun _ _ _ _ => rfl) after ht hu inT inU

theorem WellFormed.position_inside {t : Table} (ht : t ∈ tables s) {p : Int} (hp : p ∈ positions t) :
    1 ≤ p ∧ p ≤ size := by
  have := (formed.regular t ht).inside p hp
  have := formed.inside t ht
  omega

variable {js : List Job} {kept chosen : List Table} (split : tables s = kept ++ chosen.reverse)
  (enough : chosen.length = js.length)

include split

omit formed in
theorem mem_tables_of_mem_zip : ∀ p ∈ js.zip chosen, p.2 ∈ tables s := by
  intro p hp
  rw [split]
  exact List.mem_append_right _ (List.mem_reverse.mpr (List.of_mem_zip hp).2)

include enough

/-- Job after job, the cells of all their tables come in descending order. -/
theorem WellFormed.cells_descending :
    Descending ((js.zip chosen).flatMap fun p => cellsOf p.1 p.2) := by
  have regular : ∀ p ∈ js.zip chosen, Regular p.2 :=
    fun p hp => formed.regular p.2 (mem_tables_of_mem_zip split p hp)
  have falling : ((js.zip chosen).map (·.2)).Pairwise fun t u => u.stop ≤ t.start := by
    have apart := formed.apart
    rw [split] at apart
    have reversed := List.pairwise_reverse.mp (List.pairwise_append.mp apart).2.1
    rw [List.map_snd_zip (Nat.le_of_eq enough)]
    exact reversed.imp fun h => h.2
  refine List.pairwise_flatMap.mpr ⟨fun p hp => ?_, ?_⟩
  · exact cellsOf_descending (regular p hp).ascending p.1
  · refine (List.pairwise_map.mp falling).imp_of_mem ?_
    intro p q hp hq h a ha b hb
    have := (regular p hp).inside _ (position_of_mem_cellsOf ha)
    have := (regular q hq).inside _ (position_of_mem_cellsOf hb)
    omega

/-- The cells of all tables that have a job, from the last to the first. -/
theorem WellFormed.fills : Fills s (List.zipWith Job.bind js chosen)
    (textAt ((js.zip chosen).flatMap fun p => cellsOf p.1 p.2)) := by
  have ordered := formed.cells_descending split enough
  have table := @mem_tables_of_mem_zip s js kept chosen split
  have bound : ∀ p ∈ js.zip chosen, p.1.bind p.2 ∈ List.zipWith Job.bind js chosen := by
    intro p hp
    rw [← List.map_uncurry_zip_eq_zipWith]
    exact List.mem_map.mpr ⟨p, hp, rfl⟩
  constructor
  · intro b hb t resolved row column p hp
    rw [← List.map_uncurry_zip_eq_zipWith] at hb
    obtain ⟨⟨j, u⟩, pair, rfl⟩ := List.mem_map.mp hb
    cases resolved
    exact textAt_of_mem ordered (List.mem_flatMap.mpr ⟨(j, u), pair, mem_cellsOf hp⟩)
  · intro t ht free p hp
    apply textAt_eq_empty
    intro i hi same
    obtain ⟨pair, hpair, hi⟩ := List.mem_flatMap.mp hi
    have shared := position_of_mem_cellsOf hi
    rw [same] at shared
    have := formed.position_unique ht (table pair hpair) hp shared
    subst this
    exact free _ (bound pair hpair) rfl
  · intro p outside
    apply textAt_eq_empty
    intro i hi same
    obtain ⟨pair, hpair, hi⟩ := List.mem_flatMap.mp hi
    have shared := position_of_mem_cellsOf hi
    rw [same] at shared
    exact outside _ (table pair hpair) shared

omit enough in
theorem WellFormed.filter_fills :
    ((js.zip chosen).map fun p => p.1.fill p.2).flatten.filter isInsertion =
      (((js.zip chosen).flatMap fun p => cellsOf p.1 p.2).filter (·.2 ≠ "")).map
        Insert.operation := by
  rw [← List.flatMap_def, List.filter_flatMap, List.filter_flatMap, List.map_flatMap]
  apply List.flatMap_congr
  intro p hp
  exact filter_fill (formed.regular p.2 (mem_tables_of_mem_zip split p hp)).ascending p.1

end

theorem mapM_operations (js : List Job) (chosen : List Table) :
    (List.zipWith Job.bind js chosen).mapM Job.operations =
      .ok ((js.zip chosen).map fun p => p.1.fill p.2) := by
  rw [← List.map_uncurry_zip_eq_zipWith, List.mapM_map]
  exact List.mapM_pure

theorem forall₂_bind {P : Table → Prop} {js : List Job} {chosen : List Table}
    (enough : chosen.length = js.length) (h : ∀ t ∈ chosen, P t) :
    List.Forall₂ (fun j b => ∃ t, P t ∧ b = Job.bind j t) js (List.zipWith Job.bind js chosen) := by
  induction js generalizing chosen with
  | nil => exact .nil
  | cons j js ih =>
    obtain ⟨t, rest, rfl⟩ := List.exists_cons_of_length_eq_add_one enough
    exact .cons ⟨t, h t List.mem_cons_self, rfl⟩
      (ih (by simpa using enough) fun u hu => h u (List.mem_cons_of_mem _ hu))

/-- Where all jobs get a table, their batches can be carried out one after the other, and every
value ends up in front of what was in its own cell. Nothing else is inserted. -/
theorem batches_fill_cells (lay : Nat → Layout) {s : Snapshot} {old : List Content}
    (formed : WellFormed s old.length) {jobs bound : List Job}
    (resolved : claimAll s jobs = (bound, none)) :
    ∃ batches final v,
      List.Forall₂ (fun j b => ∃ t, t ∈ tables s ∧ b = Job.bind j t) jobs bound ∧
      bound.mapM Job.operations = .ok batches ∧
      replay lay (batches.flatten.filter isInsertion) old = some final ∧
      Fills s bound v ∧ contents final = spread (fun p => textContents (v p)) 1 old ∧
      ∀ i text, Operation.insertText i text ∈ batches.flatten → text ≠ "" ∧ v i = text := by
  obtain ⟨kept, chosen, split, enough, rfl⟩ :=
    (Unclaimed.initial s).of_claimFrom formed.ascending formed.near resolved
  have listed : ∀ t ∈ chosen, t ∈ tables s := by
    intro t ht
    rw [split]
    exact List.mem_append_right _ (List.mem_reverse.mpr ht)
  have ordered := formed.cells_descending split enough
  have inside : ∀ i ∈ (jobs.zip chosen).flatMap fun p => cellsOf p.1 p.2,
      1 ≤ i.1 ∧ i.1 ≤ old.length := by
    intro i hi
    obtain ⟨p, hp, hi⟩ := List.mem_flatMap.mp hi
    exact formed.position_inside (mem_tables_of_mem_zip split p hp) (position_of_mem_cellsOf hi)
  have insertions := @WellFormed.filter_fills s old.length formed jobs kept chosen split
  obtain ⟨final, replayed, filled⟩ := replay_texts lay ordered inside
  rw [← insertions] at replayed
  refine ⟨_, final, _, forall₂_bind enough listed, mapM_operations jobs chosen, replayed,
    formed.fills split enough, filled, ?_⟩
  intro i text hop
  have kept := List.mem_filter.mpr ⟨hop, show isInsertion (.insertText i text) = true from rfl⟩
  rw [insertions] at kept
  obtain ⟨⟨i', text'⟩, hi, same⟩ := List.mem_map.mp kept
  cases same
  obtain ⟨hi, nonempty⟩ := List.mem_filter.mp hi
  exact ⟨of_decide_eq_true nonempty, textAt_of_mem ordered hi⟩

def upper : Table where
  start := 2
  stop := 9
  rows := 2
  columns := 2
  cells := [[some 4, none], [some 7]]

def lower : Table where
  start := 12
  stop := 20
  rows := 2
  columns := 2
  cells := [[some 14, some 15], [some 17, some 18]]

/-- A document with two tables, one of them ragged and with a cell that has no position. -/
def twoTables : Snapshot :=
  [tableElement upper, tableElement lower]

def twoJobs : List Job :=
  [{ rows := 2, columns := 2, headers := ["𝔸", "b"], data := [["", "c", "beyond"]] },
    { rows := 2, columns := 2, headers := [], data := [["d", "nowhere"], ["e"], ["beyond"]] }]

theorem two_tables_formed : WellFormed twoTables (List.replicate 20 (Content.unit 10)).length where
  apart := by decide
  regular := by
    intro t ht
    rcases List.mem_pair.mp ht with rfl | rfl
    · exact ⟨by decide, by decide⟩
    · exact ⟨by decide, by decide⟩
  inside := by decide
  near := by decide

theorem two_batches_fill_cells :
    claimAll twoTables twoJobs = (List.zipWith Job.bind twoJobs [lower, upper], none) ∧
    ∃ batches final, ∃ v : Int → String,
      (List.zipWith Job.bind twoJobs [lower, upper]).mapM Job.operations = .ok batches ∧
      replay (fun _ => ⟨0, []⟩) (batches.flatten.filter isInsertion)
        (List.replicate 20 (.unit 10)) = some final ∧
      v 14 = "𝔸" ∧ v 15 = "b" ∧ v 18 = "c" ∧ v 4 = "d" ∧ v 7 = "e" ∧
      contents final = spread (fun p => textContents (v p)) 1 (List.replicate 20 (.unit 10)) := by
  have resolved : claimAll twoTables twoJobs =
      (List.zipWith Job.bind twoJobs [lower, upper], none) := rfl
  obtain ⟨batches, final, v, _, built, replayed, fills, filled, _⟩ :=
    batches_fill_cells (fun _ => ⟨0, []⟩) two_tables_formed resolved
  have headed := fills.cell _ List.mem_cons_self lower rfl
  have plain := fills.cell _ (List.mem_cons_of_mem _ List.mem_cons_self) upper rfl
  exact ⟨resolved, batches, final, v, built, replayed, headed 0 0 14 rfl, headed 0 1 15 rfl,
    headed 1 1 18 rfl, plain 0 0 4 rfl, plain 1 0 7 rfl, filled⟩

end Docwright.Table
