import Docwright.Proofs.Failure.Transience
import Docwright.Proofs.Retry.Discipline
import Docwright.Proofs.Writer.Calls

namespace Docwright

namespace Failure

/-- The failure is no error response as it came from the service. -/
def Mapped (f : Failure) : Prop :=
  ∀ e, f ≠ .http e

/-- What a status says about a document. -/
def kindOfStatus (n : Int) : ApiKind :=
  if n = 404 then .notFound
  else if n = 403 then .permissionDenied
  else if n = 429 then .rateLimit
  else .general

theorem int_eq (m n : Int) : Number.eq (.int m) (.int n) = decide (m = n) := by
  by_cases same : m = n <;> simp [Number.eq, Number.order?, same]

theorem transientStatus?_int (n : Int) :
    transientStatus? (.num (.int n)) = some (decide (n = 429 ∨ 500 ≤ n)) := by
  have limited : Number.eq (.int n) 429 = decide (n = 429) := int_eq n 429
  have server : Number.le 500 (.int n) = decide (500 ≤ n) := by
    have order : Number.order? 500 (.int n) = some (compare 500 n) := rfl
    rw [Number.le, order]
    rcases Int.lt_trichotomy 500 n with less | same | more
    · simp [Int.compare_eq_lt.mpr less, Int.le_of_lt less]
    · simp [← same]
    · simp [Int.compare_eq_gt.mpr more, Int.not_le.mpr more]
  rw [transientStatus?, transientCode, limited, server, Bool.decide_or]

theorem ofStatus_int (message : String) (n : Int) (documentId : Option String) : ∃ m,
    ofStatus message (.num (.int n)) documentId = .api (kindOfStatus n) m (.num (.int n)) none := by
  unfold ofStatus kindOfStatus
  simp only [int_eq, decide_eq_true_eq]
  by_cases missing : n = 404
  · subst missing
    exact ⟨_, rfl⟩
  · by_cases forbidden : n = 403
    · subst forbidden
      exact ⟨_, rfl⟩
    · by_cases unknown : n = 401
      · subst unknown
        exact ⟨_, rfl⟩
      · by_cases limited : n = 429
        · subst limited
          exact ⟨_, rfl⟩
        · simp only [missing, forbidden, unknown, limited, ↓reduceIte]
          exact ⟨_, rfl⟩

/-- An error response of status `n`, reported by what it means. -/
structure Reports (n : Int) (f : Failure) : Prop where
  form : ∃ message, f = .api (kindOfStatus n) message (.num (.int n)) none
  transient : f.retryable? = some (decide (n = 429 ∨ 500 ≤ n))

theorem reports_ofStatus (message : String) (n : Int) (documentId : Option String) :
    Reports n (ofStatus message (.num (.int n)) documentId) := by
  obtain ⟨m, form⟩ := ofStatus_int message n documentId
  refine ⟨⟨m, form⟩, ?_⟩
  rw [form]
  exact transientStatus?_int n

theorem mapped_of_isApi {f : Failure} (h : f.isApi = true) : f.Mapped := by
  rintro e rfl
  cases h

end Failure

namespace Writer

open Retry

variable {σ : Type}

/-- A call that was made at `state` was tried as the policy of the writer allows: at least once, no
more often than that, again only after a failure that may pass, and with `last` as the last
outcome. -/
structure Exchange.TriedBy (w : Writer σ) (state : σ) (x : Exchange) (last : Except Failure Json) :
    Prop where
  tried : 1 ≤ x.attempts
  bounded : (x.attempts : Int) ≤ w.policy.maxAttempts
  passing : ∀ k < x.attempts - 1, Passing (outcome (w.service x.call) state k)
  ended : outcome (w.service x.call) state (x.attempts - 1) = last
  result : x.result = reported last

theorem Exchange.attempts_eq_tries (x : Exchange) {α : Type} {r : Run Number α σ}
    (same : x.events = r.events) : x.attempts = r.tries := by
  rw [Exchange.attempts, same, Run.tries]
  congr 1
  funext e
  cases e <;> rfl

theorem Exchange.MadeAt.triedBy {w : Writer σ} (accepted : w.policy.check = .ok w.policy)
    {p : Place σ} {x : Exchange} (h : x.MadeAt w p) : ∃ last, x.TriedBy w p.service last := by
  obtain ⟨n, tried⟩ : ∃ n, Tried w.policy w.draw (w.service x.call) p.service
      (w.policy.maxAttempts - 1).toNat 1 (w.policy.initialBackoff, p.draws) n (w.attempt x.call p) :=
    tried_tryFrom _ _ (w.policy.initialBackoff, p.draws) p.service
  have attempts : x.attempts = n + 1 := (x.attempts_eq_tries h.events).trans tried.tries_eq
  have last : x.attempts - 1 = n := by omega
  have most := one_le_maxAttempts accepted
  have allowed := tried.allowed
  exact ⟨outcome (w.service x.call) p.service n, {
    tried := by omega
    bounded := by omega
    passing := by
      rw [last]
      exact tried.passing
    ended := by rw [last]
    result := h.result.trans tried.result }⟩

/-! ## Failures of calls end their tasks -/

theorem Exchange.mapped_of_answer {x : Exchange} {f : Failure} (h : x.answer = .error f) :
    f.Mapped := by
  unfold Exchange.answer at h
  split at h
  · cases h
    exact Failure.mapped_of_isApi (Failure.isApi_ofStatus _ _ _)
  · next raw =>
    rintro e rfl
    exact raw e h

theorem mapped_of_unfit {f : Failure} (h : Unfit f) : f.Mapped := by
  rintro e rfl
  exact h

theorem Task.Declines.mapped {c : Task} {f : Failure} (h : c.Declines f) : f.Mapped := by
  rcases h with unfit | ⟨digits, _, rfl⟩
  · exact mapped_of_unfit unfit
  · rintro e same
    cases same

theorem mapped_of_sectionEdits {s : Snapshot} {heading content : String} {f : Failure}
    (h : sectionEdits s heading content = .error f) : f.Mapped := by
  unfold sectionEdits at h
  split at h
  · cases h
    exact Failure.mapped_of_isApi rfl
  · next found next _ =>
    cases hr : replaceBody s.endIndex found next content with
    | ok ops =>
      rw [hr] at h
      cases h
    | error r =>
      rw [hr] at h
      cases h
      rintro e same
      cases same

/-- Errors of reading an answer are failures of another party. -/
def Foreign (read : Except Failure Json) : Prop :=
  ∀ f, read = .error f → ∃ kind message, f = .foreign kind message

theorem foreign_memberOr (absent : Json) (name : String) (v : Json) :
    Foreign (memberOr absent name v) := by
  intro f h
  unfold memberOr at h
  split at h <;> cases h
  exact ⟨_, _, rfl⟩

theorem foreign_firstReply (replies : Json) : Foreign (firstReply replies) := by
  intro f h
  unfold firstReply at h
  split at h <;> cases h <;> exact ⟨_, _, rfl⟩

theorem Foreign.bind {x : Except Failure Json} {g : Json → Except Failure Json} (hx : Foreign x)
    (hg : ∀ v, Foreign (g v)) : Foreign (x >>= g) := by
  intro f h
  cases x with
  | error e => exact hx f h
  | ok v => exact hg v f h

theorem foreign_occurrences (answer : Json) : Foreign (occurrences answer) := by
  have told (reply : Json) : Foreign (memberOr (.obj []) "replaceAllText" reply >>=
      memberOr (0 : Int) "occurrencesChanged") :=
    (foreign_memberOr _ _ reply).bind fun replaced => foreign_memberOr _ _ replaced
  refine (foreign_memberOr _ _ _).bind fun replies => ?_
  dsimp only
  split
  · exact (foreign_firstReply replies).bind told
  · exact told (.obj [])

theorem mapped_populationFailure (id : DocumentId) {f : Failure} (h : f.Mapped) :
    (populationFailure id f).Mapped := by
  cases f with
  | api kind m status own => cases kind <;> exact Failure.mapped_of_isApi rfl
  | http e => exact absurd rfl (h e)
  | _ => exact h

theorem mapped_of_checkEncodable {marked : Bool} {texts : List String} {f : Failure}
    (h : checkEncodable marked texts = .error f) : f.Mapped := by
  obtain ⟨_, _, _, _, rfl⟩ := unencodable_of_checkEncodable h
  rintro e same
  cases same

theorem Populating.mapped {id : DocumentId} {marked : Bool} {jobs : List Table.Job}
    {p : Population} {xs : List Exchange} (h : Populating id marked jobs p xs) {f : Failure}
    (stopped : p.failure = some f) : f.Mapped := by
  cases h with
  | nothing empty => cases stopped
  | unread content call failed =>
    cases stopped
    exact Exchange.mapped_of_answer failed
  | unbound content call read claimed =>
    cases stopped
    exact Failure.mapped_of_isApi rfl
  | bound content call read claimed filling =>
    cases filling with
    | all => cases stopped
    | stopped before split calls answered call' failed =>
      cases stopped
      exact Exchange.mapped_of_answer failed
    | unmeasured before split calls answered unmeasured =>
      cases stopped
      exact mapped_of_checkEncodable unmeasured

/-- Of the calls that a task has made from `s` to `t`, these belong to the second phase of writing
tables, and those before them do not. There is a second phase only if the first one has succeeded:
it carries out the jobs of the task from the session that the first one has led to. -/
inductive Divided (w : Writer σ) (id : DocumentId) (c : Task) (s t : Session σ)
    (xs : List Exchange) : List Exchange → Prop where
  | whole (made : s.Makes t xs) : Divided w id c s t xs []
  | second {c' : Writing} {d : Contents} {created : Update} {u : Session σ} {p : Population}
    {zs : List Exchange} (task : c = .write c') (contents : c'.contents = .ok d)
    (begun : w.firstPhase id d s = (.ok created, u)) (first : s.Makes u xs)
    (ran : w.runJobs id d.jobs u d.marked = (p, t)) (later : u.Makes t zs) :
    Divided w id c s t xs zs

/-- A failed call of the list ends the task with its failure. -/
def Heeds (xs : List Exchange) (r : Except Failure Result) : Prop :=
  ∀ x ∈ xs, ∀ f, x.answer = .error f → r = .error f

theorem heeds_of_answered {xs : List Exchange} (all : ∀ x ∈ xs, x.Answered)
    (r : Except Failure Result) : Heeds xs r := by
  intro x hx f failed
  exact absurd (all x hx) (not_answered failed)

theorem heeds_concat {xs : List Exchange} {x : Exchange} {f : Failure}
    (before : ∀ y ∈ xs, y.Answered) (failed : x.answer = .error f) :
    Heeds (xs ++ [x]) (.error f) := by
  intro y hy g wrong
  rcases List.mem_append.mp hy with hy | hy
  · exact heeds_of_answered before _ y hy g wrong
  · rw [List.mem_singleton.mp hy, failed] at wrong
    cases wrong
    rfl

theorem heeds_of_relayed {xs : List Exchange} {r : Except Failure Result} (h : Relayed xs r) :
    Heeds xs r := by
  cases h with
  | answered all a => exact heeds_of_answered all _
  | failed before failed => exact heeds_concat before failed

theorem Opening.answered {id : DocumentId} {d : Contents} {created : Update} {xs : List Exchange}
    (h : Opening id d (.ok created) xs) : ∀ x ∈ xs, x.Answered := by
  cases h with
  | created call read measured calls answered =>
    exact List.forall_mem_cons.mpr ⟨⟨_, read⟩, answered⟩

theorem Opening.heeds {id : DocumentId} {d : Contents} {f : Failure} {xs : List Exchange}
    (h : Opening id d (.error f) xs) : Heeds xs (.error f) := by
  cases h with
  | unread call failed => exact heeds_concat (List.forall_mem_nil _) failed
  | unmeasured call read =>
    exact heeds_of_answered (List.forall_mem_singleton.mpr ⟨_, read⟩) _
  | uncreated call read update failed =>
    exact heeds_concat (List.forall_mem_singleton.mpr ⟨_, read⟩) failed

section

variable {w : Writer σ} {id : DocumentId} {c : Task} {s t : Session σ} {xs : List Exchange}

theorem Course.divided {r : Except Failure Result} (h : Course w id c s r t xs)
    (made : s.Makes t xs) :
    ∃ ys zs, xs = ys ++ zs ∧ Divided w id c s t ys zs ∧ Heeds ys r := by
  have whole (heeds : Heeds xs r) :
      ∃ ys zs, xs = ys ++ zs ∧ Divided w id c s t ys zs ∧ Heeds ys r :=
    ⟨xs, [], (List.append_nil xs).symm, .whole made, heeds⟩
  cases h with
  | relayed relayed => exact whole (heeds_of_relayed relayed)
  | declined declined => exact whole (heeds_of_answered (List.forall_mem_nil _) _)
  | unplaced task call read refused =>
    exact whole (heeds_of_answered (List.forall_mem_singleton.mpr ⟨_, read⟩) _)
  | untold task call read untold =>
    exact whole (heeds_of_answered (List.forall_mem_singleton.mpr ⟨_, read⟩) _)
  | phased task contents phases =>
    cases phases with
    | unopened opening => exact whole opening.heeds
    | opened opening begun reached ran populating =>
      have later := made
      unfold Session.Makes at later reached
      rw [← List.append_assoc, ← reached] at later
      exact ⟨_, _, rfl, .second task contents begun reached ran later,
        heeds_of_answered opening.answered _⟩

theorem Relayed.mapped {α : Type} {r : Except Failure α} (h : Relayed xs r) {f : Failure}
    (failed : r = .error f) : f.Mapped := by
  cases h with
  | answered all a => cases failed
  | failed before answer =>
    cases failed
    exact Exchange.mapped_of_answer answer

theorem Phases.mapped {d : Contents} {r : Except Failure Update} (h : Phases w id d s r t xs)
    {f : Failure} (failed : r = .error f) : f.Mapped := by
  cases h with
  | unopened opening =>
    cases failed
    cases opening with
    | unread call answer | uncreated call read update answer =>
      exact Exchange.mapped_of_answer answer
    | unmeasured call read unmeasured => exact mapped_of_checkEncodable unmeasured
  | opened opening begun reached ran populating =>
    unfold Population.outcome at failed
    split at failed
    · next g stopped =>
      cases failed
      exact mapped_populationFailure _ (populating.mapped stopped)
    · cases failed

/-- No task ends with an error response as it came from the service. -/
theorem Course.mapped {r : Except Failure Result} (h : Course w id c s r t xs) {f : Failure}
    (failed : r = .error f) : f.Mapped := by
  cases h with
  | relayed relayed => exact relayed.mapped failed
  | declined declined =>
    cases failed
    exact declined.mapped
  | unplaced task call read refused =>
    cases failed
    exact mapped_of_sectionEdits refused
  | untold task call read untold =>
    cases failed
    obtain ⟨kind, message, rfl⟩ := foreign_occurrences _ _ untold
    rintro e same
    cases same
  | @phased _ _ r _ _ task contents phases =>
    cases r with
    | ok u => cases failed
    | error g =>
      cases failed
      exact phases.mapped rfl

end

/-- What a task makes of the last outcome of a call that ends it. An error response is reported by
what its status means; a failure that is reported already, if its status can be compared with a
number, goes out as it is. -/
structure Surfaces (last : Except Failure Json) (r : Except Failure Result) : Prop where
  response : ∀ e n, last = .error (.http e) → e.status = .num (.int n) →
    ∃ f, r = .error f ∧ f.Reports n
  reported : ∀ f, last = .error f → f.isApi = true → f.retryable? ≠ none → r = .error f

theorem reported_of_told {f : Failure} (told : f.retryable? ≠ none) :
    (reported (.error f) : Except Failure Json) = .error f :=
  if_neg told

theorem surfaces_of_heeds {w : Writer σ} {xs : List Exchange} {r : Except Failure Result}
    (heeds : Heeds xs r) {x : Exchange} (hx : x ∈ xs) {state : σ} {last : Except Failure Json}
    (tried : x.TriedBy w state last) : Surfaces last r where
  response := by
    rintro e n rfl status
    have told : (Failure.http e).retryable? ≠ none := by
      simp [Failure.retryable?, Failure.statusCode?, status]
    have result : x.result = .error (.http e) := tried.result.trans (reported_of_told told)
    have answer : x.answer =
        .error (Failure.ofStatus e.message (.num (.int n)) x.call.documentId) := by
      rw [Exchange.answer, result, ← status]
      rfl
    exact ⟨_, heeds x hx _ answer, Failure.reports_ofStatus e.message n x.call.documentId⟩
  reported := by
    rintro f rfl api told
    have result : x.result = .error f := tried.result.trans (reported_of_told told)
    refine heeds x hx f ?_
    cases f with
    | http => cases api
    | _ => rw [Exchange.answer, result]

theorem mem_of_split {α : Type} {xs zs before after : List α} {x : α}
    (split : xs ++ zs = before ++ x :: after) (inside : before.length < xs.length) : x ∈ xs := by
  have found : (xs ++ zs)[before.length]? = some x := by
    rw [split, List.getElem?_append_right (Nat.le_refl _), Nat.sub_self]
    rfl
  rw [List.getElem?_append_left inside] at found
  exact List.mem_of_getElem? found

/-- Whatever a task is given and whatever the service answers: the task never ends with an error
response as it came from the service; each of its calls is tried as the policy allows, from the
state in which the calls before it have left the service, and again only after a failure that may
pass; and a call outside of the second phase of writing tables that fails in the end ends the task.
There an error response with an integer status is reported by what it means, with that status, and
a failure of the interface that the service has raised itself goes out as it is. -/
theorem failures_surface {w : Writer σ} (accepted : w.policy.check = .ok w.policy) (id : DocumentId)
    (c : Task) (s : Session σ) : ∃ r t xs zs, c.perform w id s = (r, t) ∧ s.Makes t (xs ++ zs) ∧
      Divided w id c s t xs zs ∧ (∀ e, r ≠ .error (.http e)) ∧
      ∀ before x after, xs ++ zs = before ++ x :: after → ∃ last,
        x.TriedBy w (s.place.after w before).service last ∧
        (before.length < xs.length → Surfaces last r) := by
  obtain ⟨r, t, xs, run, made, course⟩ := c.course w id s
  obtain ⟨ys, zs, rfl, divided, heeds⟩ := course.divided made
  obtain ⟨all, made', chain, _⟩ := c.only w id s
  rw [run] at made'
  obtain rfl := made'.unique made
  refine ⟨r, t, ys, zs, run, made, divided, fun e failed => course.mapped failed e rfl, ?_⟩
  intro before x after split
  obtain ⟨last, tried⟩ := (Chain.madeAt (split ▸ chain)).triedBy accepted
  exact ⟨last, tried, fun inside => surfaces_of_heeds heeds (mem_of_split split inside) tried⟩

/-- A session in which a snapshot comes at the second try, and a batch is refused at the third. -/
def refusing : Session (List (Except Failure Json)) :=
  ⟨[.error (unavailable 503), .ok (.obj []), .error (unavailable 429), .error (unavailable 500),
    .error (unavailable 403)], 0, []⟩

def refused : Failure :=
  .api .permissionDenied "Permission denied. You may not have write access to this document."
    (.num 403) none

/-- The task ends with the report of the last outcome. -/
theorem refused_batch_surfaces : ∃ t xs,
    (Task.edit (.append "a")).perform scripted (some "doc") refusing = (.error refused, t) ∧
    refusing.Makes t xs ∧ xs.map Exchange.attempts = [2, 3] ∧
    ∀ before x after, xs = before ++ x :: after → ∃ last,
      x.TriedBy scripted (refusing.place.after scripted before).service last ∧
      Surfaces last (.error refused) := by
  obtain ⟨r, t, xs, zs, run, made, divided, _, calls⟩ :=
    failures_surface (w := scripted) rfl (some "doc") (.edit (.append "a")) refusing
  have whole : zs = [] := by
    cases divided with
    | whole => rfl
    | second task => cases task
  subst whole
  rw [List.append_nil] at made calls
  have ended : ((Task.edit (.append "a")).perform scripted (some "doc") refusing).1 =
      .error refused := by with_unfolding_all rfl
  have attempts : (((Task.edit (.append "a")).perform scripted (some "doc") refusing).2.exchanges).map
      Exchange.attempts = [2, 3] := by decide +kernel
  rw [run] at ended attempts
  cases ended
  have all : t.exchanges = xs := made
  rw [all] at attempts
  refine ⟨t, xs, run, made, attempts, fun before x after split => ?_⟩
  obtain ⟨last, tried, surfaces⟩ := calls before x after split
  exact ⟨last, tried, surfaces (by rw [split, List.length_append, List.length_cons]; omega)⟩

end Writer

end Docwright
