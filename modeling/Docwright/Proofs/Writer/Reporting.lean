import Docwright.Proofs.Writer.Phases

namespace Docwright.Writer

open Edit Table

variable {σ : Type}

/-- The failure that ended a call: its last exchange failed, or, although every exchange was answered,
a table could not be filled in or the headers of one could not be measured. -/
inductive Ended (c : Writing) (xs : List Exchange) : Failure → Prop where
  | unanswered {x : Exchange} {f : Failure} (last : xs.getLast? = some x)
    (failed : x.answer = .error f) : Ended c xs f
  | hindered (o : Obstacle) (answered : ∀ x ∈ xs, x.Answered) : Ended c xs o.toFailure
  | unmeasured {d : Contents} {j : Job} {f : Failure} (contents : c.contents = .ok d)
    (own : j.released ∈ d.jobs.map Job.released)
    (unmeasured : checkEncodable d.marked j.writtenHeaders = .error f)
    (answered : ∀ x ∈ xs, x.Answered) : Ended c xs f

theorem Ended.behind {c : Writing} {ys : List Exchange} {f : Failure} (h : Ended c ys f)
    (xs : List Exchange) (answered : ∀ x ∈ xs, x.Answered) : Ended c (xs ++ ys) f := by
  have both (all : ∀ y ∈ ys, y.Answered) : ∀ x ∈ xs ++ ys, x.Answered :=
    List.forall_mem_append.mpr ⟨answered, all⟩
  cases h with
  | unanswered last failed =>
    refine .unanswered ?_ failed
    rw [List.getLast?_append, last, Option.some_or]
  | hindered o all => exact .hindered o (both all)
  | unmeasured contents own unmeasured all => exact .unmeasured contents own unmeasured (both all)

theorem Populating.ended {c : Writing} {d : Contents} (contents : c.contents = .ok d)
    {id : DocumentId} {p : Population} {xs : List Exchange}
    (h : Populating id d.marked d.jobs p xs) {f : Failure} (stopped : p.failure = some f) :
    Ended c xs f := by
  cases h with
  | nothing empty => cases stopped
  | unread content call failed =>
    cases stopped
    exact .unanswered rfl failed
  | unbound content call read claimed =>
    cases stopped
    exact .hindered _ (List.forall_mem_singleton.mpr ⟨_, read⟩)
  | @bound x document bound p xs content call read claimed filling =>
    have first : ∀ y ∈ [x], y.Answered := List.forall_mem_singleton.mpr ⟨_, read⟩
    cases filling with
    | all calls answered measured => cases stopped
    | stopped before split calls answered call' failed =>
      cases stopped
      exact (Ended.unanswered List.getLast?_concat failed).behind [x] first
    | unmeasured before split calls answered unmeasured =>
      cases stopped
      refine .behind (.unmeasured contents ?_ unmeasured answered) [x] first
      rw [← released_of_claimAll claimed, split]
      exact List.mem_map_of_mem (by simp)

/-- An answered update. -/
def Exchange.Wrote (id : DocumentId) (x : Exchange) : Prop :=
  x.Answered ∧ ∃ requests, x.call = .update id requests

theorem Opening.not_wrote {id : DocumentId} {c : Contents} {f : Failure} {xs : List Exchange}
    (h : Opening id c (.error f) xs) : ¬∃ x ∈ xs, x.Wrote id := by
  have read {x : Exchange} (call : x.call = .get id) : ¬x.Wrote id := by
    rintro ⟨_, requests, wrote⟩
    rw [call] at wrote
    cases wrote
  rintro ⟨y, hy, written⟩
  cases h with
  | unread call | unmeasured call =>
    rw [List.mem_singleton.mp hy] at written
    exact read call written
  | uncreated call _ _ failed =>
    rcases List.mem_pair.mp hy with rfl | rfl
    · exact read call written
    · exact not_answered failed written.1

theorem Phases.ended {c : Writing} {d : Contents} (contents : c.contents = .ok d) {w : Writer σ}
    {id : DocumentId} {s u : Session σ} {xs : List Exchange} {g : Failure}
    (h : Phases w id d s (.error g) u xs) (written : ∃ x ∈ xs, x.Wrote id) :
    ∃ f, Ended c xs f ∧ g = populationFailure id f := by
  generalize outcome : Except.error g = r at h
  cases h with
  | unopened opening => exact absurd written opening.not_wrote
  | opened opening _ _ _ populating =>
    cases opening with
    | created call read measured calls answered =>
      unfold Population.outcome at outcome
      split at outcome
      · next f stopped =>
        have before := List.forall_mem_cons.mpr ⟨⟨_, read⟩, answered⟩
        exact ⟨f, (populating.ended contents stopped).behind _ before, Except.error.inj outcome⟩
      · cases outcome

/-- The failure is reported as one of the second phase, with the document and the status of its
cause. -/
def ReportsPopulation (id : DocumentId) (cause f : Failure) : Prop :=
  ∃ message, f = .api .tablePopulation message cause.status id

/-- A failure of a remote call that names no document, or the one that is written. -/
def Reportable (id : DocumentId) : Failure → Prop
  | .api .tablePopulation _ _ own => own = none ∨ own = some "" ∨ own = id
  | .api .. => True
  | _ => False

theorem reportsPopulation_iff (id : DocumentId) (cause : Failure) :
    ReportsPopulation id cause (populationFailure id cause) ↔ Reportable id cause := by
  cases cause with
  | api kind m status own =>
    cases kind with
    | tablePopulation =>
      cases own with
      | none => exact ⟨fun _ => .inl rfl, fun _ => ⟨m, rfl⟩⟩
      | some name =>
        by_cases empty : name = ""
        · subst empty
          exact ⟨fun _ => .inr (.inl rfl), fun _ => ⟨m, rfl⟩⟩
        · simp [ReportsPopulation, populationFailure, Reportable, Failure.status, empty]
    | general | notFound | permissionDenied | rateLimit =>
      exact ⟨fun _ => trivial, fun _ => ⟨_, rfl⟩⟩
  | _ => simp [ReportsPopulation, populationFailure, Reportable]

/-- Once a batch of the first phase has been written, a call that fails reports what has ended it as
a failure to fill in tables if and only if that was a failure of a remote call. Whatever else ends
the call goes out as it is. -/
theorem failure_reported_iff (c : Writing) (w : Writer σ) (id : DocumentId) {s u : Session σ}
    {xs : List Exchange} {g : Failure} (failed : c.append w id s = (.error g, u))
    (made : s.Makes u xs) (written : ∃ x ∈ xs, x.Wrote id) :
    ∃ f, Ended c xs f ∧ (ReportsPopulation id f g ↔ Reportable id f) ∧ (f.isApi = false → g = f) := by
  rcases c.declined_or_phases w id s with
    ⟨f, _, refused⟩ | ⟨d, r, t, ys, contents, ran, made', phases⟩
  · rw [refused] at failed
    cases failed
    obtain ⟨x, hx, _⟩ := written
    rw [made.unique (.none s)] at hx
    cases hx
  · rw [ran] at failed
    cases failed
    obtain rfl := made'.unique made
    obtain ⟨f, ended, rfl⟩ := phases.ended contents written
    exact ⟨f, ended, reportsPopulation_iff id f, populationFailure_of_not_api id⟩

/-- A session in which the snapshot that tells where a new table is does not come. -/
def interrupted (f : Failure) : Session (List (Except Failure Json)) :=
  ⟨[.ok (.obj []), .ok (.obj []), .error f], 0, []⟩

def headed : Writing :=
  .table 1 1 ["A"] []

theorem exists_wrote {id : DocumentId} {xs : List Exchange} {v : Json} {requests : List Json}
    (answer : xs[1]?.map Exchange.answer = some (.ok v))
    (call : xs[1]?.map Exchange.call = some (.update id requests)) : ∃ x ∈ xs, x.Wrote id := by
  obtain ⟨x, second, answered⟩ := Option.map_eq_some_iff.mp answer
  rw [second] at call
  exact ⟨x, List.mem_of_getElem? second, ⟨v, answered⟩, requests, Option.some.inj call⟩

def missing : Failure :=
  .http ⟨.num (.int 404), "Error", .null, none⟩

theorem missing_document_reported : ∃ g u xs f,
    headed.append scripted (some "doc") (interrupted missing) = (.error g, u) ∧
    (interrupted missing).Makes u xs ∧ (∃ x ∈ xs, x.Wrote (some "doc")) ∧ Ended headed xs f ∧
    (ReportsPopulation (some "doc") f g ↔ Reportable (some "doc") f) := by
  let u := (headed.append scripted (some "doc") (interrupted missing)).2
  have failed : headed.append scripted (some "doc") (interrupted missing) =
    (.error (populationFailure (some "doc") (missing.mapped (some "doc"))), u) := rfl
  have made : (interrupted missing).Makes u u.exchanges := rfl
  have written : ∃ x ∈ u.exchanges, x.Wrote (some "doc") := exists_wrote rfl rfl
  obtain ⟨f, ended, reported, _⟩ := failure_reported_iff headed scripted _ failed made written
  exact ⟨_, u, _, f, failed, made, written, ended, reported⟩

def overdue : Failure :=
  .foreign "TimeoutError" "timed out"

/-- A timeout goes out as it is, though the table has been created. -/
theorem timeout_not_reported : ∃ u,
    headed.append scripted (some "doc") (interrupted overdue) = (.error overdue, u) ∧
    (∃ x ∈ u.exchanges, x.Wrote (some "doc")) ∧
    ¬ ∃ message status, overdue = .api .tablePopulation message status (some "doc") := by
  refine ⟨(headed.append scripted (some "doc") (interrupted overdue)).2, rfl, exists_wrote rfl rfl, ?_⟩
  rintro ⟨message, status, reported⟩
  cases reported

end Docwright.Writer
