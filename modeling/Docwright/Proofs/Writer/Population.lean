import Docwright.Proofs.Failure.Encodable
import Docwright.Proofs.Writer.Session
import Docwright.Writer.Population

/-!
What the second phase of writing tables does to a session: the calls that it makes, the jobs that
it leaves, and where it stops. Each action has one lemma that tells all it can do (`submit_cases`,
`filling_fillJobs`, `populating_runJobs`).
-/

namespace Docwright.Table

/-- The edits that fill in the table of a job; there are none before the job has a table. -/
def Job.edits (j : Job) : List Edit.Operation :=
  match j.operations with
  | .ok ops => ops
  | .error _ => []

def Job.Resolved (j : Job) : Prop :=
  ∃ t, j.state = .resolved t

def Job.Populated (j : Job) : Prop :=
  ∃ t, j.state = .populated t

/-- A job whose table has been filled in. -/
def Job.populated (j : Job) : Job :=
  match j.finish with
  | .ok done => done
  | .error _ => j

section

variable {j : Job} (h : j.Resolved)

include h

theorem Job.operations_eq : j.operations = .ok j.edits := by
  obtain ⟨t, ht⟩ := h
  simp only [Job.edits, Job.operations, ht]

theorem Job.finish_eq : j.finish = .ok j.populated := by
  obtain ⟨t, ht⟩ := h
  simp only [Job.populated, Job.finish, ht]

theorem Job.populated_populated : j.populated.Populated := by
  obtain ⟨t, ht⟩ := h
  exact ⟨t, by simp only [Job.populated, Job.finish, ht]⟩

end

theorem Job.edits_eq_nil {j : Job} (empty : j.hasContent = false) : j.edits = [] := by
  obtain ⟨headers, data⟩ : j.headers = [] ∧ j.data = [] := by simpa [Job.hasContent] using empty
  cases hs : j.state with
  | pending | populated => simp only [Job.edits, Job.operations, hs]
  | resolved t =>
    simp [Job.edits, Job.operations, hs, Job.fill, Job.headerInserts, Job.dataInserts, headers, data,
      Job.rowInserts, Job.rowsInserts, Job.descending]

theorem Job.eq_of_claim {s : Snapshot} {near : Int} {exclude : List Int} {j bound : Job}
    {t : Snapshot.Table} (h : j.claim s near exclude = .ok (t, bound)) :
    bound = { j with state := .resolved t } := by
  cases hs : j.state with
  | resolved | populated => simp [Job.claim, hs] at h
  | pending =>
    cases ht : Snapshot.tableNear s near exclude with
    | none => simp [Job.claim, hs, ht] at h
    | some found =>
      simp only [Job.claim, hs, ht, Except.ok.injEq, Prod.mk.injEq] at h
      rw [← h.1, ← h.2]

/-- A job without the state that it is in. -/
def Job.released (j : Job) : Job :=
  { j with state := .pending }

theorem Job.released_populated (j : Job) : j.populated.released = j.released := by
  unfold Job.populated Job.finish
  cases j.state <;> rfl

/-- The jobs that come back are those that were given, in their order. -/
theorem released_claimFrom (s : Snapshot) (claimed : List Int) (js : List Job) :
    (claimFrom s claimed js).1.map Job.released = js.map Job.released := by
  induction js generalizing claimed with
  | nil => rfl
  | cons j js ih =>
    rw [claimFrom]
    cases hc : j.claim s Snapshot.farIndex claimed with
    | error o => rfl
    | ok found =>
      simp only [List.map_cons, Job.eq_of_claim hc, Job.released, ih]

theorem released_of_claimAll {s : Snapshot} {js bound : List Job} {stop : Option Obstacle}
    (h : claimAll s js = (bound, stop)) : bound.map Job.released = js.map Job.released := by
  rw [← released_claimFrom s [] js, ← claimAll, h]

theorem ne_nil_of_claimAll {s : Snapshot} {js bound : List Job} {stop : Option Obstacle}
    (h : claimAll s js = (bound, stop)) {j : Job} (own : j ∈ bound) : js ≠ [] := by
  rintro rfl
  cases h
  cases own

theorem resolved_of_claimFrom {s : Snapshot} {claimed : List Int} {js bound : List Job}
    (h : claimFrom s claimed js = (bound, none)) : ∀ j ∈ bound, j.Resolved := by
  induction js generalizing claimed bound with
  | nil =>
    cases h
    exact List.forall_mem_nil _
  | cons j js ih =>
    rw [claimFrom] at h
    cases hc : j.claim s Snapshot.farIndex claimed with
    | error o => simp [hc] at h
    | ok found =>
      cases hr : claimFrom s (claimed ++ [found.1.start]) js with
      | mk rest stop =>
        simp only [hc, hr, Prod.mk.injEq] at h
        obtain ⟨rfl, rfl⟩ := h
        intro i hi
        rcases List.mem_cons.mp hi with rfl | hi
        · exact ⟨found.1, by rw [Job.eq_of_claim hc]⟩
        · exact ih hr i hi

end Docwright.Table

namespace Docwright.Writer

open Edit Table

variable {σ : Type}

/-- The call that fills in the table of a job, if there is anything to write into it. -/
def jobCalls (id : DocumentId) (j : Job) : List Call :=
  updates id j.edits

theorem batch_eq {j : Job} (h : j.Resolved) : batch j = .ok j.edits := by
  unfold batch
  cases hc : j.hasContent with
  | true => exact Job.operations_eq h
  | false => rw [Job.edits_eq_nil hc]; rfl

/-- All headers of a job can be measured. -/
def Measured (marked : Bool) (j : Job) : Prop :=
  checkEncodable marked j.writtenHeaders = .ok ()

theorem fillJob_cases (w : Writer σ) (id : DocumentId) (marked : Bool) {j : Job} (h : j.Resolved)
    (s : Session σ) :
    (∃ xs t, w.fillJob id marked j s = (.ok ((jobCalls id j).length, j.populated), t) ∧
      s.Makes t xs ∧ xs.map Exchange.call = jobCalls id j ∧ (∀ x ∈ xs, x.Answered) ∧
      Measured marked j) ∨
    (∃ x t f, w.fillJob id marked j s = (.error f, t) ∧ s.Makes t [x] ∧ jobCalls id j = [x.call] ∧
      x.answer = .error f) ∨
    ∃ f, w.fillJob id marked j s = (.error f, s) ∧
      checkEncodable marked j.writtenHeaders = .error f := by
  have settled : (Action.settled ((batch j).mapError Obstacle.toFailure) : Action σ _) s =
      (.ok j.edits, s) := by rw [batch_eq h]; rfl
  unfold fillJob
  rw [Action.bind_of_ok settled]
  cases measured : checkEncodable marked j.writtenHeaders with
  | error f => exact .inr (.inr ⟨f, rfl, rfl⟩)
  | ok _ =>
    rw [Action.settled_ok, pure_bind]
    rcases submit_cases w id j.edits "populate_table" s with
      ⟨xs, t, v, submitted, made, calls, answered⟩ | ⟨x, t, f, submitted, made, call, failed⟩
    · refine .inl ⟨xs, t, ?_, made, calls, answered, measured⟩
      have finished : (Action.settled (j.finish.mapError Obstacle.toFailure) : Action σ _) t =
          (.ok j.populated, t) := by rw [Job.finish_eq h]; rfl
      have number : (jobCalls id j).length = if j.edits.isEmpty then 0 else 1 := by
        unfold jobCalls updates
        split <;> rfl
      rw [Action.bind_of_ok submitted, Action.bind_of_ok finished, number]
      rfl
    · exact .inr (.inl ⟨x, t, f, Action.bind_of_error submitted _, made, call, failed⟩)

/-- How filling in the tables of `jobs` may go: all of them are filled in, or all in front of the
first one whose call fails, or whose headers cannot be measured. -/
inductive Filling (id : DocumentId) (marked : Bool) (jobs : List Job) :
    Population → List Exchange → Prop where
  | all {xs : List Exchange} (calls : xs.map Exchange.call = jobs.flatMap (jobCalls id))
    (answered : ∀ x ∈ xs, x.Answered) (measured : ∀ j ∈ jobs, Measured marked j) :
    Filling id marked jobs
      ⟨jobs.map Job.populated, (jobs.flatMap (jobCalls id)).length, none⟩ xs
  | stopped (before : List Job) {after : List Job} {j : Job} {xs : List Exchange} {x : Exchange}
    {f : Failure} (split : jobs = before ++ j :: after)
    (calls : xs.map Exchange.call = before.flatMap (jobCalls id))
    (answered : ∀ x ∈ xs, x.Answered) (call : jobCalls id j = [x.call]) (failed : x.answer = .error f) :
    Filling id marked jobs ⟨before.map Job.populated ++ j :: after,
      (before.flatMap (jobCalls id)).length, some f⟩ (xs ++ [x])
  | unmeasured (before : List Job) {after : List Job} {j : Job} {xs : List Exchange} {f : Failure}
    (split : jobs = before ++ j :: after)
    (calls : xs.map Exchange.call = before.flatMap (jobCalls id))
    (answered : ∀ x ∈ xs, x.Answered)
    (unmeasured : checkEncodable marked j.writtenHeaders = .error f) :
    Filling id marked jobs ⟨before.map Job.populated ++ j :: after,
      (before.flatMap (jobCalls id)).length, some f⟩ xs

theorem Filling.cons {id : DocumentId} {marked : Bool} {j : Job} {jobs : List Job} {p : Population}
    {xs ys : List Exchange} (h : Filling id marked jobs p xs) (measured : Measured marked j)
    (calls : ys.map Exchange.call = jobCalls id j) (answered : ∀ y ∈ ys, y.Answered) :
    Filling id marked (j :: jobs)
      ⟨j.populated :: p.jobs, (jobCalls id j).length + p.filled, p.failure⟩ (ys ++ xs) := by
  have both {zs : List Exchange} (others : ∀ z ∈ zs, z.Answered) : ∀ z ∈ ys ++ zs, z.Answered :=
    List.forall_mem_append.mpr ⟨answered, others⟩
  have all {before : List Job} {zs : List Exchange}
      (others : zs.map Exchange.call = before.flatMap (jobCalls id)) :
      (ys ++ zs).map Exchange.call = (j :: before).flatMap (jobCalls id) := by
    rw [List.map_append, calls, others, List.flatMap_cons]
  cases h with
  | all calls' answered' measured' =>
    rw [← List.length_append]
    exact .all (all calls') (both answered') (List.forall_mem_cons.mpr ⟨measured, measured'⟩)
  | stopped before split calls' answered' call failed =>
    rw [← List.length_append, ← List.append_assoc]
    exact .stopped (j :: before) (congrArg (j :: ·) split) (all calls') (both answered') call failed
  | unmeasured before split calls' answered' unmeasured =>
    rw [← List.length_append]
    exact .unmeasured (j :: before) (congrArg (j :: ·) split) (all calls') (both answered') unmeasured

theorem filling_fillJobs (w : Writer σ) (id : DocumentId) (marked : Bool) {jobs : List Job}
    (h : ∀ j ∈ jobs, j.Resolved) (s : Session σ) :
    ∃ p t xs, w.fillJobs id marked jobs s = (p, t) ∧ s.Makes t xs ∧ Filling id marked jobs p xs := by
  induction jobs generalizing s with
  | nil => exact ⟨_, s, [], rfl, .none s, .all rfl (List.forall_mem_nil _) (List.forall_mem_nil _)⟩
  | cons j js ih =>
    rcases fillJob_cases w id marked (h j List.mem_cons_self) s with
      ⟨ys, t, filled, made, calls, answered, measured⟩ | ⟨x, t, f, stopped, made, call, failed⟩ |
      ⟨f, stopped, unmeasured⟩
    · obtain ⟨p, u, xs, rest, made', filling⟩ := ih (fun k hk => h k (List.mem_cons_of_mem _ hk)) t
      refine ⟨_, u, ys ++ xs, ?_, made.trans made', filling.cons measured calls answered⟩
      simp only [fillJobs, filled, rest]
    · refine ⟨_, t, [x], ?_, made, .stopped [] rfl rfl (List.forall_mem_nil _) call failed⟩
      simp only [fillJobs, stopped]
      rfl
    · refine ⟨_, s, [], ?_, .none s, .unmeasured [] rfl rfl (List.forall_mem_nil _) unmeasured⟩
      simp only [fillJobs, stopped]
      rfl

/-- How the second phase may go for `jobs`. -/
inductive Populating (id : DocumentId) (marked : Bool) (jobs : List Job) :
    Population → List Exchange → Prop where
  | nothing (empty : jobs.any (·.hasContent) = false) : Populating id marked jobs { jobs } []
  | unread {x : Exchange} {f : Failure} (content : jobs.any (·.hasContent) = true)
    (call : x.call = .get id) (failed : x.answer = .error f) :
    Populating id marked jobs { jobs, failure := some f } [x]
  | unbound {x : Exchange} {document : Json} {bound : List Job} {o : Obstacle}
    (content : jobs.any (·.hasContent) = true) (call : x.call = .get id)
    (read : x.answer = .ok document)
    (claimed : claimAll (Snapshot.ofJson document) jobs = (bound, some o)) :
    Populating id marked jobs { jobs := bound, failure := some o.toFailure } [x]
  | bound {x : Exchange} {document : Json} {bound : List Job} {p : Population} {xs : List Exchange}
    (content : jobs.any (·.hasContent) = true) (call : x.call = .get id)
    (read : x.answer = .ok document)
    (claimed : claimAll (Snapshot.ofJson document) jobs = (bound, none))
    (filling : Filling id marked bound p xs) : Populating id marked jobs p (x :: xs)

theorem bindJobs_makes (jobs : List Job) (document : Json) (s : Session σ) :
    ∃ t, bindJobs jobs document s = (.ok (claimAll (Snapshot.ofJson document) jobs), t) ∧
      s.Makes t [] := by
  obtain ⟨t, warned, made⟩ := warn_makes
    (((claimAll (Snapshot.ofJson document) jobs).2.map Obstacle.warnings).getD []) s
  exact ⟨t, Action.bind_of_ok warned _, made⟩

theorem populating_runJobs (w : Writer σ) (id : DocumentId) (marked : Bool) (jobs : List Job)
    (s : Session σ) : ∃ p t xs, w.runJobs id jobs s marked = (p, t) ∧ s.Makes t xs ∧
      Populating id marked jobs p xs := by
  unfold runJobs
  cases content : jobs.any (·.hasContent) with
  | false => exact ⟨_, s, [], rfl, .none s, .nothing content⟩
  | true =>
    simp only [Bool.not_true, Bool.false_eq_true, ↓reduceIte]
    obtain ⟨x, t, run, made, call⟩ := fetch_makes w id s
    cases read : x.answer with
    | error f =>
      rw [read] at run
      have stopped : (w.fetch id).andThen (bindJobs jobs) s = (.error f, t) :=
        Action.bind_of_error run _
      rw [stopped]
      exact ⟨_, t, [x], rfl, made, .unread content call read⟩
    | ok document =>
      rw [read] at run
      obtain ⟨u, claimed, quiet⟩ := bindJobs_makes jobs document t
      have bound : (w.fetch id).andThen (bindJobs jobs) s =
          (.ok (claimAll (Snapshot.ofJson document) jobs), u) :=
        (Action.bind_of_ok run _).trans claimed
      have made' : s.Makes u [x] := made.trans quiet
      rw [bound]
      cases hc : claimAll (Snapshot.ofJson document) jobs with
      | mk js stop =>
        cases stop with
        | some o => exact ⟨_, u, [x], rfl, made', .unbound content call read hc⟩
        | none =>
          obtain ⟨p, v, xs, filled, more, filling⟩ :=
            filling_fillJobs w id marked (resolved_of_claimFrom hc) u
          exact ⟨p, v, x :: xs, filled, made'.trans more, .bound content call read hc filling⟩

end Docwright.Writer
