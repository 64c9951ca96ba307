import Docwright.Proofs.Replay.Passage
import Docwright.Proofs.Table.Claiming

namespace Docwright.Replay

open Edit Table

/-- A table edit and the table that it has created. -/
structure Creates (e : TableEdit) (p : Placed) : Prop where
  origin : p.1 = some e.number
  rows : p.2.rows = e.rows
  columns : p.2.columns = e.columns

theorem tableEdits_edits (n : Nat) (c : Int) (p : Passage) :
    tableEdits n (p.edits c) = match p with
      | .table rows columns => [⟨n, rows, columns⟩]
      | _ => [] := by
  cases p with
  | pageBreak | table => rfl
  | text content ranges =>
    have ranged : ∀ op ∈ ranges.map (Ranged.edit c), rangeOf op ≠ none := by
      intro op hop
      obtain ⟨r, _, rfl⟩ := List.mem_map.mp hop
      simp [Ranged.edit]
    have none := fun m => tableEdits_ranges m ranged
    by_cases empty : content = ""
    · simp only [Passage.edits, empty, ↓reduceIte, List.nil_append, none]
    · simp only [Passage.edits, empty, ↓reduceIte, tableEdits_append, none, List.append_nil]
      rfl

theorem tablesFrom_flow (position : Int) (n : Nat) (ps : List Passage) :
    tablesFrom position (flow n ps) = [] := by
  induction ps generalizing position n with
  | nil => rfl
  | cons p ps ih =>
    have first : tablesFrom position (p.marks n) = [] := by
      apply tablesFrom_eq_nil
      intro m hm r c l hc
      cases p with
      | text content ranges =>
        obtain ⟨u, _, rfl⟩ := List.mem_map.mp hm
        cases hc
      | pageBreak =>
        rw [List.eq_of_mem_replicate hm] at hc
        cases hc
      | table => cases hm
    rw [flow, tablesFrom_append, first, ih, List.append_nil]

/-- The last table that a batch creates stands first. -/
theorem creates_stack (lay : Nat → Layout) (position : Int) (n : Nat) (c : Int) (ps : List Passage) :
    List.Forall₂ Creates (tableEdits n (batch c ps)) (tablesFrom position (stack lay n ps)).reverse := by
  induction ps generalizing n c with
  | nil => exact .nil
  | cons p ps ih =>
    have rest := ih (n + p.count) (c + p.width)
    rw [batch, tableEdits_append, p.length_edits, stack, tablesFrom_append, List.reverse_append]
    refine List.rel_append ?_ rest
    rw [tableEdits_edits]
    cases p with
    | text | pageBreak => exact .nil
    | table rows columns =>
      simp only [Passage.tableMarks, tablesFrom_tableMarks, List.reverse_singleton]
      exact .cons ⟨rfl, rfl, rfl⟩ .nil

/-- The tables of a document, then the new ones, when a batch goes in front of the last line end. -/
theorem tables_outcome (lay : Nat → Layout) (text : List Content) (ps : List Passage) :
    ∃ position, tables (outcome lay (text.length + 1) ps (text ++ [lineEnd])) =
      tables (before (text ++ [lineEnd])) ++ tablesFrom position (stack lay 0 ps) := by
  have offset : ((text.length : Int) + 1 - 1).toNat = text.length := by omega
  have front : front (text ++ [lineEnd]) (text.length + 1) = text := by
    rw [Replay.front, offset, List.take_left]
  have back : back (text ++ [lineEnd]) (text.length + 1) = [lineEnd] := by
    rw [Replay.back, offset, List.drop_left]
  have ends (position : Int) : tablesFrom position (before [lineEnd]) = [] := rfl
  have split : before (text ++ [lineEnd]) = before text ++ before [lineEnd] := List.map_append
  refine ⟨1 + (before text).length + (flow 0 ps).length, ?_⟩
  simp only [outcome, front, back, split, tables, tablesFrom_append, tablesFrom_flow, ends,
    List.append_nil, List.append_assoc]
  congr 2

/-- A snapshot lists the tables in order, none of them behind the end of the document. -/
theorem Reports.ascending {s : Snapshot} {b : Body} (h : Reports s b) :
    Ascending (Snapshot.tables s) := by
  rw [Ascending, h.tables, List.pairwise_map]
  exact tablesFrom_ascending b 1

theorem Reports.bounded {s : Snapshot} {b : Body} (h : Reports s b) {far : Int}
    (near : b.length ≤ far) : ∀ t ∈ Snapshot.tables s, t.start ≤ far := by
  intro t ht
  rw [h.tables] at ht
  obtain ⟨p, hp, rfl⟩ := List.mem_map.mp ht
  have := tablesFrom_range b 1 p hp
  omega

theorem Reports.endIndex {s : Snapshot} {b : Body} (h : Reports s b) (nonempty : b ≠ []) :
    s.endIndex = b.length := by
  have positive : 0 < b.length := List.length_pos_iff.mpr nonempty
  cases hl : s.getLast? with
  | none => simpa [hl] using h.ends
  | some e =>
    have stop : e.stop = some ((b.length : Int) + 1) := by simpa [hl] using h.ends
    simp only [Snapshot.endIndex, hl, stop, Option.getD_some]
    omega

end Docwright.Replay
