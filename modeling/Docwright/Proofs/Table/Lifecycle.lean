import Docwright.Table.Job

namespace Docwright.Table

open Edit

namespace Job

/-- What can be asked of a job. -/
inductive Request where
  | claim (s : Snapshot) (near : Int) (exclude : List Int)
  | operations
  | finish

/-- What a request brings that is not refused. -/
inductive Answer where
  | bound (t : Snapshot.Table)
  | batch (ops : List Operation)
  | finished

/-- The answer to a request, and the job afterwards. -/
def serve (j : Job) : Request → Except Obstacle Answer × Job
  | .claim s near exclude =>
    match j.claim s near exclude with
    | .ok (t, bound) => (.ok (.bound t), bound)
    | .error o => (.error o, j)
  | .operations => (j.operations.map .batch, j)
  | .finish =>
    match j.finish with
    | .ok done => (.ok .finished, done)
    | .error o => (.error o, j)

/-- A request to a job, and what came of it. -/
structure Event where
  before : Job
  request : Request
  answer : Except Obstacle Answer
  after : Job

/-- One request after the other. -/
def events (j : Job) : List Request → List Event
  | [] => []
  | q :: qs => ⟨j, q, (j.serve q).1, (j.serve q).2⟩ :: (j.serve q).2.events qs

def Event.claims (e : Event) : Bool :=
  match e.answer with
  | .ok (.bound _) => true
  | _ => false

def Event.finishes (e : Event) : Bool :=
  match e.answer with
  | .ok .finished => true
  | _ => false

end Job

/-- All that a request can do to a job. -/
inductive Move (j : Job) : Job.Request → Except Obstacle Job.Answer → Job → Prop where
  | claimed {s : Snapshot} {near : Int} {exclude : List Int} {t : Snapshot.Table}
    (pending : j.state = .pending) (found : Snapshot.tableNear s near exclude = some t) :
    Move j (.claim s near exclude) (.ok (.bound t)) { j with state := .resolved t }
  | unclaimed {s : Snapshot} {near : Int} {exclude : List Int} (o : Obstacle)
    (why : j.state = .pending → Snapshot.tableNear s near exclude = none) :
    Move j (.claim s near exclude) (.error o) j
  | built {t : Snapshot.Table} (resolved : j.state = .resolved t) :
    Move j .operations (.ok (.batch (j.fill t))) j
  | unbuilt (o : Obstacle) (why : ∀ t, j.state ≠ .resolved t) : Move j .operations (.error o) j
  | finished {t : Snapshot.Table} (resolved : j.state = .resolved t) :
    Move j .finish (.ok .finished) { j with state := .populated t }
  | unfinished (o : Obstacle) (why : ∀ t, j.state ≠ .resolved t) : Move j .finish (.error o) j

theorem Move.of_serve (j : Job) (q : Job.Request) : Move j q (j.serve q).1 (j.serve q).2 := by
  cases q with
  | claim s near exclude =>
    cases state : j.state with
    | pending =>
      cases found : Snapshot.tableNear s near exclude with
      | none =>
        simp only [Job.serve, Job.claim, state, found]
        exact .unclaimed _ fun _ => found
      | some t =>
        simp only [Job.serve, Job.claim, state, found]
        exact .claimed state found
    | resolved t | populated t =>
      simp only [Job.serve, Job.claim, state]
      exact .unclaimed _ fun pending => nomatch state.symm.trans pending
  | operations =>
    cases state : j.state with
    | resolved t =>
      simp only [Job.serve, Job.operations, state]
      exact .built state
    | pending | populated t =>
      simp only [Job.serve, Job.operations, state]
      exact .unbuilt _ fun t resolved => nomatch state.symm.trans resolved
  | finish =>
    cases state : j.state with
    | resolved t =>
      simp only [Job.serve, Job.finish, state]
      exact .finished state
    | pending | populated t =>
      simp only [Job.serve, Job.finish, state]
      exact .unfinished _ fun t resolved => nomatch state.symm.trans resolved

namespace Move

variable {j k : Job} {q : Job.Request} {a : Except Obstacle Job.Answer}

theorem moves (h : Move j q a k) : k.state = j.state ∨ ∃ t,
    j.state = .pending ∧ k.state = .resolved t ∨ j.state = .resolved t ∧ k.state = .populated t := by
  cases h with
  | unclaimed | built | unbuilt | unfinished => exact .inl rfl
  | claimed pending => exact .inr ⟨_, .inl ⟨pending, rfl⟩⟩
  | finished resolved => exact .inr ⟨_, .inr ⟨resolved, rfl⟩⟩

theorem claimed_iff {s : Snapshot} {near : Int} {exclude : List Int}
    (h : Move j (.claim s near exclude) a k) (t : Snapshot.Table) :
    (a = .ok (.bound t) ↔ j.state = .pending ∧ Snapshot.tableNear s near exclude = some t) ∧
    (a = .ok (.bound t) → k.state = .resolved t) := by
  cases h with
  | claimed pending found => simp [pending, found]
  | unclaimed o why => simpa using fun pending => by simp [why pending]

theorem built_iff (h : Move j .operations a k) :
    (∃ ops, a = .ok (.batch ops)) ↔ ∃ t, j.state = .resolved t := by
  cases h with
  | built resolved => exact ⟨fun _ => ⟨_, resolved⟩, fun _ => ⟨_, rfl⟩⟩
  | unbuilt o why => exact ⟨nofun, fun ⟨t, resolved⟩ => absurd resolved (why t)⟩

theorem finished_iff (h : Move j .finish a k) : a = .ok .finished ↔ ∃ t, j.state = .resolved t := by
  cases h with
  | finished resolved => exact ⟨fun _ => ⟨_, resolved⟩, fun _ => rfl⟩
  | unfinished o why => exact ⟨nofun, fun ⟨t, resolved⟩ => absurd resolved (why t)⟩

theorem eq_of_error {o : Obstacle} (h : Move j q (.error o) k) : k = j := by
  cases h <;> rfl

end Move

/-- From one state to a later one. The table stays the same. -/
inductive State.Leads : State → State → Prop where
  | stay (s : State) : Leads s s
  | bind (t : Snapshot.Table) : Leads .pending (.resolved t)
  | fill (t : Snapshot.Table) : Leads (.resolved t) (.populated t)
  | both (t : Snapshot.Table) : Leads .pending (.populated t)

theorem State.Leads.trans {s t u : State} (h : s.Leads t) (h' : t.Leads u) : s.Leads u := by
  cases h with
  | stay => exact h'
  | bind table =>
    cases h' with
    | stay => exact .bind table
    | fill => exact .both table
  | fill table =>
    cases h'
    exact .fill table
  | both table =>
    cases h'
    exact .both table

theorem State.Leads.table {s t : State} (h : s.Leads t) {table : Snapshot.Table}
    (bound : s.table? = some table) : t.table? = some table := by
  cases h with
  | stay => exact bound
  | fill => exact bound
  | bind | both => cases bound

/-- `k` may be what has become of `j`. -/
structure Job.Becomes (j k : Job) : Prop where
  contents : { k with state := j.state } = j
  state : j.state.Leads k.state

theorem Job.Becomes.refl (j : Job) : j.Becomes j :=
  ⟨rfl, .stay _⟩

theorem Job.Becomes.trans {j k l : Job} (h : j.Becomes k) (h' : k.Becomes l) : j.Becomes l where
  contents := by
    rw [← h.contents, ← h'.contents]
  state := h.state.trans h'.state

theorem Job.Becomes.fill {j k : Job} (h : j.Becomes k) (t : Snapshot.Table) :
    k.fill t = j.fill t := by
  rw [← h.contents]
  rfl

theorem Move.becomes {j k : Job} {q : Job.Request} {a : Except Obstacle Job.Answer}
    (h : Move j q a k) : j.Becomes k := by
  cases h with
  | unclaimed | built | unbuilt | unfinished => exact .refl j
  | claimed pending => exact ⟨rfl, pending ▸ .bind _⟩
  | finished resolved => exact ⟨rfl, resolved ▸ .fill _⟩

namespace Job

theorem mem_events {j : Job} {qs : List Request} {e : Event} (h : e ∈ j.events qs) :
    j.Becomes e.before ∧ Move e.before e.request e.answer e.after := by
  induction qs generalizing j with
  | nil => cases h
  | cons q qs ih =>
    have first := Move.of_serve j q
    rcases List.mem_cons.mp h with rfl | h
    · exact ⟨.refl j, first⟩
    · exact ⟨first.becomes.trans (ih h).1, (ih h).2⟩

/-- What a request leaves is where every later one starts from, but for what came between them. -/
theorem pairwise_events (j : Job) (qs : List Request) :
    (j.events qs).Pairwise fun e f => e.after.Becomes f.before := by
  induction qs generalizing j with
  | nil => exact .nil
  | cons q qs ih => exact .cons (fun f hf => (mem_events hf).1) (ih _)

/-- What holds of every request to a job that was `j` at first. -/
structure Event.Orderly (j : Job) (e : Event) : Prop where
  contents : { e.after with state := j.state } = j
  moves : e.after.state = e.before.state ∨ ∃ t,
    e.before.state = .pending ∧ e.after.state = .resolved t ∨
      e.before.state = .resolved t ∧ e.after.state = .populated t
  table : e.after.state.table?.isSome ↔ e.after.state ≠ .pending
  claims : ∀ s near exclude, e.request = .claim s near exclude → ∀ t,
    (e.answer = .ok (.bound t) ↔
      e.before.state = .pending ∧ Snapshot.tableNear s near exclude = some t) ∧
    (e.answer = .ok (.bound t) → e.after.state = .resolved t)
  builds : e.request = .operations →
    ((∃ ops, e.answer = .ok (.batch ops)) ↔ ∃ t, e.before.state = .resolved t)
  finishes : e.request = .finish → (e.answer = .ok .finished ↔ ∃ t, e.before.state = .resolved t)
  refused : ∀ o, e.answer = .error o → e.after = e.before

theorem orderly_of_mem {j : Job} {qs : List Request} {e : Event} (h : e ∈ j.events qs) :
    e.Orderly j := by
  obtain ⟨before, move⟩ := mem_events h
  exact {
    contents := (before.trans move.becomes).contents
    moves := move.moves
    table := by cases e.after.state <;> simp [State.table?]
    claims := fun s near exclude asked => (asked ▸ move).claimed_iff
    builds := fun asked => (asked ▸ move).built_iff
    finishes := fun asked => (asked ▸ move).finished_iff
    refused := fun o failed => (failed ▸ move).eq_of_error }

/-- A job that has been bound to a table is never pending again. -/
theorem not_pending_after_claim {e : Event} (move : Move e.before e.request e.answer e.after)
    (claims : e.claims) {k : Job} (later : e.after.Becomes k) :
    e.before.state = .pending ∧ k.state ≠ .pending := by
  obtain ⟨b, q, a, after⟩ := e
  dsimp only at move later
  cases move with
  | claimed pending found =>
    refine ⟨pending, fun back => ?_⟩
    cases back ▸ later.state
  | unclaimed | built | unbuilt | finished | unfinished => cases claims

/-- Nor is a job resolved again that has been finished. -/
theorem not_resolved_after_finish {e : Event} (move : Move e.before e.request e.answer e.after)
    (finishes : e.finishes) {k : Job} (later : e.after.Becomes k) :
    (∃ t, e.before.state = .resolved t) ∧ ∀ t, k.state ≠ .resolved t := by
  obtain ⟨b, q, a, after⟩ := e
  dsimp only at move later
  cases move with
  | finished resolved =>
    refine ⟨⟨_, resolved⟩, fun t back => ?_⟩
    cases back ▸ later.state
  | unclaimed | built | unbuilt | claimed | unfinished => cases finishes

/-- What is built is built for the table that the job is bound to. -/
theorem fill_of_built {b k : Job} {q : Request} {ops : List Operation}
    (move : Move b q (.ok (.batch ops)) k) : ∃ t, b.state = .resolved t ∧ ops = b.fill t := by
  cases move with
  | built resolved => exact ⟨_, resolved, rfl⟩

theorem countP_le_one {α : Type} {p : α → Bool} {l : List α}
    (h : l.Pairwise fun a b => p a → ¬p b) : l.countP p ≤ 1 := by
  induction h with
  | nil => exact Nat.zero_le 1
  | @cons a l apart _ ih =>
    by_cases holds : p a
    · have rest : l.countP p = 0 := List.countP_eq_zero.mpr fun b hb => apart b hb holds
      rw [List.countP_cons_of_pos holds]
      omega
    · rwa [List.countP_cons_of_neg holds]

/-- What holds of a request and a later one. -/
structure Event.Consistent (e f : Event) : Prop where
  claims : e.claims → ¬f.claims
  finishes : e.finishes → ¬f.finishes
  table : ∀ t, e.after.state.table? = some t →
    f.before.state.table? = some t ∧ f.after.state.table? = some t
  batch : ∀ ops ops', e.answer = .ok (.batch ops) → f.answer = .ok (.batch ops') → ops' = ops

theorem consistent_of_becomes {e f : Event} (move : Move e.before e.request e.answer e.after)
    (later : e.after.Becomes f.before) (next : Move f.before f.request f.answer f.after) :
    e.Consistent f where
  claims claimed again :=
    (not_pending_after_claim move claimed later).2 (not_pending_after_claim next again (.refl _)).1
  finishes finished again := by
    obtain ⟨t, resolved⟩ := (not_resolved_after_finish next again (.refl _)).1
    exact (not_resolved_after_finish move finished later).2 t resolved
  table t bound := by
    have kept := later.state.table bound
    exact ⟨kept, next.becomes.state.table kept⟩
  batch ops ops' built again := by
    obtain ⟨t, resolved, rfl⟩ := fill_of_built (built ▸ move)
    obtain ⟨t', resolved', rfl⟩ := fill_of_built (again ▸ next)
    have since := move.becomes.trans later
    have kept : f.before.state.table? = some t := since.state.table (by rw [resolved]; rfl)
    rw [resolved'] at kept
    cases kept
    exact since.fill t

theorem pairwise_consistent (j : Job) (qs : List Request) :
    (j.events qs).Pairwise Event.Consistent :=
  (pairwise_events j qs).imp_of_mem fun he hf later =>
    consistent_of_becomes (mem_events he).2 later (mem_events hf).2

/-- Whatever is asked of a job, it is bound once and filled once, keeps the table that it is bound
to, and builds one and the same batch as often as it is asked to. -/
theorem events_orderly (j : Job) (qs : List Request) :
    (∀ e ∈ j.events qs, e.Orderly j) ∧
    (j.events qs).countP Event.claims ≤ 1 ∧ (j.events qs).countP Event.finishes ≤ 1 ∧
    (j.events qs).Pairwise Event.Consistent := by
  have consistent := pairwise_consistent j qs
  exact ⟨fun e => orderly_of_mem, countP_le_one (consistent.imp Event.Consistent.claims),
    countP_le_one (consistent.imp Event.Consistent.finishes), consistent⟩

/-- Half of these are refused: there is nothing to build or to claim yet, or it is too late. -/
def impatient : List Request :=
  let found : Snapshot := [⟨some 2, some 7, none, some ⟨none, none, [[[some 4]]]⟩⟩]
  [.operations, .claim [] 0 [], .claim found 0 [], .claim found 0 [], .operations, .finish,
    .operations, .finish]

theorem impatient_events_orderly : let events := (⟨1, 1, ["A"], [], .pending⟩ : Job).events impatient
    events.map (·.after.state.name) = ["pending", "pending", "resolved", "resolved", "resolved",
      "populated", "populated", "populated"] ∧
    events.countP Event.claims ≤ 1 ∧ events.countP Event.finishes ≤ 1 ∧
    events.Pairwise Event.Consistent :=
  ⟨rfl, (events_orderly _ impatient).2⟩

end Job

end Docwright.Table
