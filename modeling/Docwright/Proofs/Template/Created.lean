import Docwright.Proofs.Replay.Tables
import Docwright.Proofs.Template.Batch

namespace Docwright.Template

open Edit Replay Table

/-- A job and the edit that creates the table which it is to fill in. -/
structure Asks (j : Job) (e : TableEdit) : Prop where
  rows : e.rows = j.rows
  columns : e.columns = j.columns

/-- The table edits of passages, in order, are those of the jobs. -/
def Serves (js : List Job) (ps : List Passage) : Prop :=
  ∀ n c, List.Forall₂ Asks js (tableEdits n (batch c ps))

theorem Serves.append {js ks : List Job} {ps qs : List Passage} (h : Serves js ps)
    (h' : Serves ks qs) : Serves (js ++ ks) (ps ++ qs) := by
  intro n c
  rw [batch_append, tableEdits_append]
  exact List.rel_append (h n c) (h' _ _)

theorem Element.serves (e : Element) : Serves e.job?.toList [e.passage] := by
  intro n c
  rw [batch, batch, List.append_nil, tableEdits_edits]
  cases e with
  | table => exact .cons ⟨rfl, rfl⟩ .nil
  | text | list | pageBreak | rule => exact .nil

theorem serves_flatMap {α : Type} {js : α → List Job} {ps : α → List Passage}
    (h : ∀ x, Serves (js x) (ps x)) (xs : List α) : Serves (xs.flatMap js) (xs.flatMap ps) := by
  induction xs with
  | nil => exact fun _ _ => .nil
  | cons x xs ih => exact (h x).append ih

theorem serves_elements (es : List Element) :
    Serves (es.filterMap Element.job?) (es.map Element.passage) := by
  rw [List.map_eq_flatMap, List.filterMap_eq_flatMap_toList]
  exact serves_flatMap Element.serves es

theorem Section.serves (s : Section) : Serves s.jobs s.passages := by
  have heading : Serves [] [headingPassage s] := by
    intro n c
    rw [batch, batch, List.append_nil, headingPassage, tableEdits_edits]
    exact .nil
  exact heading.append (serves_elements s.content)

theorem serves_jobs (t : Template) : Serves (jobs t) (passages t) := by
  have title : Serves [] (t.title.map Title.passage).toList := by
    intro n c
    cases t.title with
    | none => exact .nil
    | some title =>
      rw [Option.map_some, Option.toList_some, batch, batch, List.append_nil, Title.passage,
        tableEdits_edits]
      exact .nil
  exact (title.append (serves_flatMap Section.serves t.sections)).append (serves_elements t.elements)

theorem Element.pending_of_job {e : Element} {j : Job} (h : e.job? = some j) : j.state = .pending := by
  cases e with
  | table => cases h; rfl
  | text | list | pageBreak | rule => cases h

theorem pending_of_mem_jobs {t : Template} : ∀ j ∈ jobs t, j.state = .pending := by
  intro j hj
  rcases List.mem_append.mp hj with hj | hj
  · obtain ⟨s, _, hj⟩ := List.mem_flatMap.mp hj
    obtain ⟨e, _, he⟩ := List.mem_filterMap.mp hj
    exact Element.pending_of_job he
  · obtain ⟨e, _, he⟩ := List.mem_filterMap.mp hj
    exact Element.pending_of_job he

/-- The jobs of an accepted template claim, in any snapshot of the document that its edits lead to,
each the table that was created for it: the new tables stand behind all others, the last one
first. -/
theorem jobs_claim_created_tables (lay : Nat → Layout) {v : Json} {t : Template}
    (accepted : Template.ofJson v = .ok t) (text : List Content) {s : Snapshot}
    (reported : Reports s (before (text ++ [lineEnd]))) :
    ∃ c final created, t.compile s.endIndex = .ok c ∧
      replay lay c.operations (text ++ [lineEnd]) = some final ∧
      tables final = tables (before (text ++ [lineEnd])) ++ created.reverse ∧
      List.Forall₂ Creates (tableEdits 0 c.operations) created ∧
      List.Forall₂ Asks c.jobs (tableEdits 0 c.operations) ∧
      ∀ later, Reports later final → final.length ≤ Snapshot.farIndex →
        claimAll later c.jobs = (List.zipWith Job.bind c.jobs (created.map (·.2)), none) := by
  have proper := proper_of_ofJson accepted
  have start : s.endIndex = text.length + 1 := by
    rw [reported.endIndex (by simp [before])]
    simp
  have first : 1 ≤ (text.length : Int) + 1 := by omega
  have last : (text.length : Int) + 1 ≤ (text ++ [lineEnd]).length + 1 := by
    simp only [List.length_append]
    omega
  obtain ⟨warnings, compiled⟩ := compile_eq_batch proper first
  obtain ⟨position, found⟩ := tables_outcome lay text (passages t)
  have created := creates_stack lay position 0 (text.length + 1) (passages t)
  have asked := serves_jobs t 0 (text.length + 1)
  rw [start]
  refine ⟨_, _, (tablesFrom position (stack lay 0 (passages t))).reverse, compiled,
    replay_batch lay first last (fits_passages proper), ?_, created, asked, ?_⟩
  · rw [found, List.reverse_reverse]
  · intro later reports near
    have free : Unclaimed later [] ((tables (before (text ++ [lineEnd]))).map (·.2) ++
        ((tablesFrom position (stack lay 0 (passages t))).reverse.map (·.2)).reverse) [] := by
      rw [List.map_reverse, List.reverse_reverse, ← List.map_append, ← found, ← reports.tables]
      exact .initial later
    have enough := created.length_eq.symm.trans asked.length_eq.symm
    exact free.claimFrom reports.ascending (reports.bounded near)
      (by rw [List.length_map]; exact enough) pending_of_mem_jobs

/-- Three tables among other content, on a document that has a table already. -/
def mixed : Json :=
  let table := fun rows : Int => Json.obj [("type", .str "table"), ("rows", .num (.int rows)),
    ("columns", .num (.int 2)), ("headers", .arr [.str "A"])]
  .obj [("title", .obj [("text", .str "T")]),
    ("sections", .arr [.obj [("heading", .str "H"),
      ("content", .arr [table 1, .obj [("type", .str "text"), ("text", .str "x")]])]]),
    ("elements", .arr [table 2, .obj [("type", .str "pagebreak")], table 3])]

def mixedText : List Content :=
  textContents "old" ++ [.table 1 1 ⟨1, [[some 1]]⟩, .inTable]

def mixedLayout (n : Nat) : Layout :=
  ⟨n + 2, [[some 2, some 3]]⟩

theorem mixed_replays : ∃ t c final, Template.ofJson mixed = .ok t ∧
    t.compile (report (before (mixedText ++ [lineEnd]))).endIndex = .ok c ∧
    replay mixedLayout c.operations (mixedText ++ [lineEnd]) = some final ∧
    c.jobs.length = 3 ∧ final.length = 42 :=
  ⟨_, _, _, by with_unfolding_all rfl, rfl, rfl, rfl, rfl⟩

theorem mixed_jobs_claim_created_tables : ∃ t c final created, Template.ofJson mixed = .ok t ∧
    t.compile (report (before (mixedText ++ [lineEnd]))).endIndex = .ok c ∧ c.jobs.length = 3 ∧
    replay mixedLayout c.operations (mixedText ++ [lineEnd]) = some final ∧
    tables final = tables (before (mixedText ++ [lineEnd])) ++ created.reverse ∧
    List.Forall₂ Creates (tableEdits 0 c.operations) created ∧
    claimAll (report final) c.jobs = (List.zipWith Job.bind c.jobs (created.map (·.2)), none) := by
  obtain ⟨t, c, final, accepted, compiled, replayed, three, size⟩ := mixed_replays
  obtain ⟨c', final', created, compiled', replayed', placed, creates, _, claimed⟩ :=
    jobs_claim_created_tables mixedLayout accepted mixedText (reports_report _)
  cases compiled.symm.trans compiled'
  cases replayed.symm.trans replayed'
  have near : final.length ≤ Snapshot.farIndex := by
    rw [size]
    decide
  exact ⟨t, c, final, created, accepted, compiled, three, replayed, placed, creates,
    claimed _ (reports_report final) near⟩

end Docwright.Template
