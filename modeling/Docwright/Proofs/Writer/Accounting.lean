import Docwright.Proofs.Writer.Phases

namespace Docwright.Writer

open Edit Table

variable {σ : Type}

/-! ## Exchanges up to the first failure -/

/-- No exchange is made after one that has failed. -/
def Stops (xs : List Exchange) : Prop :=
  ∀ x ∈ xs.dropLast, x.Answered

theorem stops_append {xs ys : List Exchange} (answered : ∀ x ∈ xs, x.Answered) (h : Stops ys) :
    Stops (xs ++ ys) := by
  intro x hx
  by_cases empty : ys = []
  · rw [empty, List.append_nil] at hx
    exact answered x (List.dropLast_subset xs hx)
  · rw [List.dropLast_append_of_ne_nil empty] at hx
    rcases List.mem_append.mp hx with hx | hx
    · exact answered x hx
    · exact h x hx

theorem stops_concat {xs : List Exchange} (answered : ∀ x ∈ xs, x.Answered) (x : Exchange) :
    Stops (xs ++ [x]) :=
  stops_append answered (List.forall_mem_nil _)

theorem stops_of_answered {xs : List Exchange} (answered : ∀ x ∈ xs, x.Answered) : Stops xs :=
  fun x hx => answered x (List.dropLast_subset xs hx)

/-! ## The account of the second phase -/

/-- Of the jobs that were bound to tables, those `before` have been filled in, each by its own batch,
and those `after` have not: the batch of the first one of them has failed. -/
structure Tally (id : DocumentId) (bound left before after : List Job) (xs : List Exchange) :
    Prop where
  split : bound = before ++ after
  left : left = before.map Job.populated ++ after
  populated : ∀ j ∈ before.map Job.populated, j.Populated
  resolved : ∀ j ∈ after, j.Resolved
  batches : ∃ done rest, xs = done ++ rest ∧ done.map Exchange.call = before.flatMap (jobCalls id) ∧
    (∀ x ∈ done, x.Answered) ∧ (after = [] ∧ rest = [] ∨
      ∃ j later x, after = j :: later ∧ rest = [x] ∧ jobCalls id j = [x.call] ∧ ¬x.Answered)

theorem populated_of_resolved {js : List Job} (h : ∀ j ∈ js, j.Resolved) :
    ∀ j ∈ js.map Job.populated, j.Populated := by
  intro j hj
  obtain ⟨i, hi, rfl⟩ := List.mem_map.mp hj
  exact Job.populated_populated (h i hi)

theorem Filling.tally {id : DocumentId} {bound : List Job} {p : Population} {xs : List Exchange}
    (h : Filling id false bound p xs) (resolved : ∀ j ∈ bound, j.Resolved) :
    ∃ before after, Tally id bound p.jobs before after xs := by
  cases h with
  | unmeasured before split calls answered unmeasured => cases unmeasured
  | all calls answered measured =>
    refine ⟨bound, [], ?_⟩
    exact {
      split := (List.append_nil _).symm
      left := (List.append_nil _).symm
      populated := populated_of_resolved resolved
      resolved := List.forall_mem_nil _
      batches := ⟨xs, [], (List.append_nil _).symm, calls, answered, .inl ⟨rfl, rfl⟩⟩ }
  | @stopped before after j xs x f split calls answered call failed =>
    subst split
    refine ⟨before, j :: after, ?_⟩
    exact {
      split := rfl
      left := rfl
      populated := populated_of_resolved fun i hi => resolved i (List.mem_append_left _ hi)
      resolved := fun i hi => resolved i (List.mem_append_right _ hi)
      batches := ⟨xs, [x], rfl, calls, answered, .inr ⟨j, after, x, rfl, rfl, call, not_answered failed⟩⟩ }

section

variable {id : DocumentId} {bound : List Job} {p : Population} {xs : List Exchange}

theorem Filling.calls_prefix (h : Filling id false bound p xs) :
    xs.map Exchange.call <+: bound.flatMap (jobCalls id) := by
  cases h with
  | unmeasured before split calls answered unmeasured => cases unmeasured
  | all calls answered measured => exact ⟨[], by rw [List.append_nil, calls]⟩
  | stopped before split calls answered call failed =>
    subst split
    rw [List.map_append, calls, List.flatMap_append, List.flatMap_cons, call]
    exact (List.prefix_append_right_inj _).mpr (List.prefix_append _ _)

theorem Filling.stops (h : Filling id false bound p xs) : Stops xs := by
  cases h with
  | unmeasured before split calls answered unmeasured => cases unmeasured
  | all calls answered measured => exact stops_of_answered answered
  | stopped before split calls answered call failed => exact stops_concat answered _

theorem Filling.failure_iff (h : Filling id false bound p xs) :
    p.failure ≠ none ↔ ∃ x ∈ xs, ¬x.Answered := by
  cases h with
  | unmeasured before split calls answered unmeasured => cases unmeasured
  | all calls answered measured =>
    refine ⟨fun stopped => absurd rfl stopped, ?_⟩
    rintro ⟨x, hx, silent⟩
    exact absurd (answered x hx) silent
  | @stopped before after j xs x f split calls answered call failed =>
    refine ⟨fun _ => ⟨x, ?_, not_answered failed⟩, fun _ => Option.some_ne_none f⟩
    exact List.mem_append_right _ List.mem_cons_self

theorem Filling.released (h : Filling id false bound p xs) :
    p.jobs.map Job.released = bound.map Job.released := by
  have each (js : List Job) : (js.map Job.populated).map Job.released = js.map Job.released := by
    rw [List.map_map]
    exact List.map_congr_left fun j _ => j.released_populated
  cases h with
  | unmeasured before split calls answered unmeasured => cases unmeasured
  | all calls answered measured => exact each bound
  | stopped before split calls answered call failed =>
    rw [split, List.map_append, each, List.map_append]

theorem Filling.of_success (h : Filling id false bound p xs) (success : p.failure = none) :
    xs.map Exchange.call = bound.flatMap (jobCalls id) ∧
      p = ⟨bound.map Job.populated, (bound.flatMap (jobCalls id)).length, none⟩ := by
  cases h with
  | all calls answered measured => exact ⟨calls, rfl⟩
  | stopped | unmeasured => cases success

end

/-! ## The account of a run -/

section

variable (id : DocumentId) (compiled : Template.Compiled)

/-- The first phase: a snapshot, and the batch of all edits, if there are any. -/
def opening : List Call :=
  .get id :: updates id compiled.operations

/-- The batches of the second phase, one for each job that has something to write. -/
def fillings (bound : List Job) : List Call :=
  if compiled.jobs.any (·.hasContent) then bound.flatMap (jobCalls id) else []

/-- All calls, in order. -/
def plan (bound : List Job) : List Call :=
  opening id compiled ++
    ((if compiled.jobs.any (·.hasContent) then [.get id] else []) ++ fillings id compiled bound)

/-- How the jobs are bound to tables, once the second snapshot has come. -/
def binding (xs : List Exchange) : Option (List Job × Option Obstacle) :=
  xs[(opening id compiled).length]?.bind fun x =>
    x.answer.toOption.map fun document => claimAll (Snapshot.ofJson document) compiled.jobs

end

/-- The account of a run from `s` to `u` that writes the template `t`, which comes to `compiled`
where the document ends. Its jobs are bound to tables as `bound`; `left` is what becomes of them. -/
structure Accounted (w : Writer σ) (id : DocumentId) (t : Template) (compiled : Template.Compiled)
    (bound left : List Job) (s : Session σ) (r : Except Failure Update) (u : Session σ)
    (xs : List Exchange) : Prop where
  compiles : ∀ x document, xs[0]? = some x → x.answer = .ok document →
    t.compile (Snapshot.ofJson document).endIndex = .ok compiled
  binds : ∀ b, binding id compiled xs = some b → b.1 = bound
  calls : xs.map Exchange.call <+: plan id compiled bound
  stops : Stops xs
  fails : (∃ f, r = .error f) ↔
    (∃ x ∈ xs, ¬x.Answered) ∨ ∃ o, binding id compiled xs = some (bound, some o)
  hindered : ∀ o, binding id compiled xs = some (bound, some o) →
    xs.length = (opening id compiled).length + 1 ∧ left = bound
  tally : binding id compiled xs = some (bound, none) →
    ∃ before after, Tally id bound left before after (xs.drop ((opening id compiled).length + 1))
  jobs : left.map Job.released = compiled.jobs.map Job.released ∧
    ((xs.take (opening id compiled).length).map Exchange.call = opening id compiled →
      (∀ x ∈ xs.take (opening id compiled).length, x.Answered) →
      ∃ v p, s.Makes v (xs.take (opening id compiled).length) ∧
        w.runJobs id compiled.jobs v = (p, u) ∧ p.jobs = left)
  succeeds : ∀ update, r = .ok update → xs.map Exchange.call = plan id compiled bound ∧
    update = ⟨id, compiled.operations.length, (fillings id compiled bound).length⟩ ∧
    (compiled.jobs.any (·.hasContent) → ∀ j ∈ left, j.Populated)

theorem Population.outcome_eq_error_iff {p : Population} {u : Update} :
    (∃ f, p.outcome u = .error f) ↔ p.failure ≠ none := by
  unfold Population.outcome
  cases p.failure with
  | none => simp
  | some f => exact ⟨fun _ => Option.some_ne_none f, fun _ => ⟨_, rfl⟩⟩

theorem Population.of_outcome_eq_ok {p : Population} {u v : Update} (h : p.outcome u = .ok v) :
    p.failure = none ∧ { u with tables := p.filled } = v := by
  unfold Population.outcome at h
  split at h
  · cases h
  · next success => exact ⟨success, Except.ok.inj h⟩

theorem binding_eq_none {id : DocumentId} {compiled : Template.Compiled} {xs : List Exchange}
    (few : xs.length ≤ (opening id compiled).length) : binding id compiled xs = none := by
  rw [binding, List.getElem?_eq_none few, Option.bind_none]

section

variable {w : Writer σ} {id : DocumentId} {t : Template} {compiled : Template.Compiled}
  {s u v : Session σ} {xs ys : List Exchange} {p : Population}

/-- A run that fails in the first phase. -/
theorem accounted_of_prefix
    (compiles : ∀ x document, xs[0]? = some x → x.answer = .ok document →
      t.compile (Snapshot.ofJson document).endIndex = .ok compiled)
    (calls : xs.map Exchange.call <+: opening id compiled) (stops : Stops xs)
    (failed : ∃ x ∈ xs, ¬x.Answered) (f : Failure) :
    Accounted w id t compiled [] compiled.jobs s (.error f) u xs := by
  have few : xs.length ≤ (opening id compiled).length := by
    rw [← List.length_map Exchange.call]
    exact calls.length_le
  have unread := binding_eq_none few
  exact {
    compiles := compiles
    binds := fun b hb => nomatch unread.symm.trans hb
    calls := calls.trans (List.prefix_append _ _)
    stops := stops
    fails := ⟨fun _ => .inl failed, fun _ => ⟨f, rfl⟩⟩
    hindered := fun o ho => nomatch unread.symm.trans ho
    tally := fun h => nomatch unread.symm.trans h
    jobs := by
      refine ⟨rfl, fun _ answered => ?_⟩
      rw [List.take_of_length_le few] at answered
      obtain ⟨x, hx, unanswered⟩ := failed
      exact absurd (answered x hx) unanswered
    succeeds := fun _ h => nomatch h }

/-- The first phase is over: its calls have been made and answered. -/
structure Opened (id : DocumentId) (t : Template) (compiled : Template.Compiled) (s v : Session σ)
    (xs : List Exchange) : Prop where
  compiles : ∀ x document, xs[0]? = some x → x.answer = .ok document →
    t.compile (Snapshot.ofJson document).endIndex = .ok compiled
  calls : xs.map Exchange.call = opening id compiled
  answered : ∀ x ∈ xs, x.Answered
  reached : s.Makes v xs

namespace Opened

variable (opened : Opened id t compiled s v xs)

include opened

theorem length_eq : (opening id compiled).length = xs.length := by
  rw [← opened.calls, List.length_map]

theorem compiles_append (ys : List Exchange) : ∀ x document, (xs ++ ys)[0]? = some x →
    x.answer = .ok document → t.compile (Snapshot.ofJson document).endIndex = .ok compiled := by
  intro x document hx
  rw [List.getElem?_append_left (by rw [← opened.length_eq]; exact Nat.succ_pos _)] at hx
  exact opened.compiles x document hx

theorem binding_append (ys : List Exchange) : binding id compiled (xs ++ ys) = ys.head?.bind fun x =>
    x.answer.toOption.map fun document => claimAll (Snapshot.ofJson document) compiled.jobs := by
  rw [binding, opened.length_eq, List.getElem?_append_right (Nat.le_refl _), Nat.sub_self,
    List.head?_eq_getElem?]

theorem binding_of_read {x : Exchange} {document : Json} (read : x.answer = .ok document)
    (ys : List Exchange) : binding id compiled (xs ++ x :: ys) =
      some (claimAll (Snapshot.ofJson document) compiled.jobs) := by
  rw [opened.binding_append, List.head?_cons, Option.bind_some, read]
  rfl

theorem calls_append {bound : List Job} (rest : ys.map Exchange.call <+:
    (if compiled.jobs.any (·.hasContent) then [.get id] else []) ++ fillings id compiled bound) :
    (xs ++ ys).map Exchange.call <+: plan id compiled bound := by
  rw [List.map_append, opened.calls]
  exact (List.prefix_append_right_inj _).mpr rest

theorem unanswered_append (ys : List Exchange) :
    (∃ x ∈ xs ++ ys, ¬x.Answered) ↔ ∃ y ∈ ys, ¬y.Answered := by
  constructor
  · rintro ⟨x, hx, silent⟩
    rcases List.mem_append.mp hx with hx | hx
    · exact absurd (opened.answered x hx) silent
    · exact ⟨x, hx, silent⟩
  · rintro ⟨y, hy, silent⟩
    exact ⟨y, List.mem_append_right _ hy, silent⟩

theorem runs (ran : w.runJobs id compiled.jobs v = (p, u)) (ys : List Exchange) :
    ∃ v p', s.Makes v ((xs ++ ys).take (opening id compiled).length) ∧
      w.runJobs id compiled.jobs v = (p', u) ∧ p'.jobs = p.jobs := by
  refine ⟨v, p, ?_, ran, rfl⟩
  rw [opened.length_eq, List.take_left]
  exact opened.reached

/-- Without content, nothing follows. -/
theorem accounted_of_nothing (empty : compiled.jobs.any (·.hasContent) = false)
    (ran : w.runJobs id compiled.jobs v = ({ jobs := compiled.jobs }, u)) :
    Accounted w id t compiled [] compiled.jobs s (.ok ⟨id, compiled.operations.length, 0⟩) u
      (xs ++ []) := by
  have unread : binding id compiled (xs ++ []) = none := opened.binding_append []
  exact {
    compiles := opened.compiles_append []
    binds := fun b hb => nomatch unread.symm.trans hb
    calls := opened.calls_append List.nil_prefix
    stops := stops_append opened.answered (List.forall_mem_nil _)
    fails := by
      rw [opened.unanswered_append, unread]
      simp
    hindered := fun o ho => nomatch unread.symm.trans ho
    tally := fun h => nomatch unread.symm.trans h
    jobs := ⟨rfl, fun _ _ => opened.runs ran []⟩
    succeeds := by
      intro update h
      cases h
      simp [plan, fillings, empty, opened.calls] }

/-- The second snapshot does not come. -/
theorem accounted_of_unread {x : Exchange} {f : Failure}
    (content : compiled.jobs.any (·.hasContent) = true) (call : x.call = .get id)
    (failed : x.answer = .error f)
    (ran : w.runJobs id compiled.jobs v = ({ jobs := compiled.jobs, failure := some f }, u)) :
    Accounted w id t compiled [] compiled.jobs s (.error (populationFailure id f)) u (xs ++ [x]) := by
  have unread : binding id compiled (xs ++ [x]) = none := by
    rw [opened.binding_append, List.head?_cons, Option.bind_some, failed]
    rfl
  exact {
    compiles := opened.compiles_append [x]
    binds := fun b hb => nomatch unread.symm.trans hb
    calls := opened.calls_append (by
      rw [if_pos content, List.map_singleton, call]
      exact ⟨_, rfl⟩)
    stops := stops_concat opened.answered x
    fails := by
      rw [opened.unanswered_append]
      exact ⟨fun _ => .inl ⟨x, List.mem_singleton_self x, not_answered failed⟩, fun _ => ⟨_, rfl⟩⟩
    hindered := fun o ho => nomatch unread.symm.trans ho
    tally := fun h => nomatch unread.symm.trans h
    jobs := ⟨rfl, fun _ _ => opened.runs ran [x]⟩
    succeeds := fun _ h => nomatch h }

variable {x : Exchange} {document : Json} {bound : List Job}

/-- A table is not found. -/
theorem accounted_of_unbound {o : Obstacle} (content : compiled.jobs.any (·.hasContent) = true)
    (call : x.call = .get id) (read : x.answer = .ok document)
    (claimed : claimAll (Snapshot.ofJson document) compiled.jobs = (bound, some o))
    (ran : w.runJobs id compiled.jobs v = ({ jobs := bound, failure := some o.toFailure }, u)) :
    Accounted w id t compiled bound bound s (.error (populationFailure id o.toFailure)) u
      (xs ++ [x]) := by
  have bindings : binding id compiled (xs ++ [x]) = some (bound, some o) :=
    (opened.binding_of_read read []).trans (congrArg some claimed)
  exact {
    compiles := opened.compiles_append [x]
    binds := by
      intro b hb
      cases bindings.symm.trans hb
      rfl
    calls := opened.calls_append (by
      rw [if_pos content, List.map_singleton, call]
      exact ⟨_, rfl⟩)
    stops := stops_concat opened.answered x
    fails := ⟨fun _ => .inr ⟨o, bindings⟩, fun _ => ⟨_, rfl⟩⟩
    hindered := fun _ _ => by
      rw [opened.length_eq, List.length_append, List.length_singleton]
      exact ⟨rfl, rfl⟩
    tally := fun h => nomatch bindings.symm.trans h
    jobs := ⟨released_of_claimAll claimed, fun _ _ => opened.runs ran [x]⟩
    succeeds := fun _ h => nomatch h }

/-- All tables are found, and are filled in until a batch fails. -/
theorem accounted_of_bound {zs : List Exchange} (content : compiled.jobs.any (·.hasContent) = true)
    (call : x.call = .get id) (read : x.answer = .ok document)
    (claimed : claimAll (Snapshot.ofJson document) compiled.jobs = (bound, none))
    (filling : Filling id false bound p zs) (ran : w.runJobs id compiled.jobs v = (p, u)) :
    Accounted w id t compiled bound p.jobs s (p.outcome ⟨id, compiled.operations.length, 0⟩) u
      (xs ++ x :: zs) := by
  have bindings : binding id compiled (xs ++ x :: zs) = some (bound, none) :=
    (opened.binding_of_read read zs).trans (congrArg some claimed)
  have resolved := resolved_of_claimFrom claimed
  have before : Stops (x :: zs) :=
    stops_append (List.forall_mem_singleton.mpr ⟨document, read⟩) filling.stops
  exact {
    compiles := opened.compiles_append (x :: zs)
    binds := by
      intro b hb
      cases bindings.symm.trans hb
      rfl
    calls := opened.calls_append (by
      rw [if_pos content, List.map_cons, call, fillings, if_pos content]
      exact (List.prefix_append_right_inj [_]).mpr filling.calls_prefix)
    stops := stops_append opened.answered before
    fails := by
      rw [Population.outcome_eq_error_iff, opened.unanswered_append, filling.failure_iff, bindings]
      simp [Exchange.Answered, read]
    hindered := fun o ho => nomatch bindings.symm.trans ho
    tally := by
      intro _
      have behind : (xs ++ x :: zs).drop ((opening id compiled).length + 1) = zs := by
        rw [opened.length_eq, ← List.drop_drop, List.drop_left, List.drop_one, List.tail_cons]
      rw [behind]
      exact filling.tally resolved
    jobs := ⟨filling.released.trans (released_of_claimAll claimed), fun _ _ => opened.runs ran (x :: zs)⟩
    succeeds := by
      intro update h
      obtain ⟨success, rfl⟩ := Population.of_outcome_eq_ok h
      obtain ⟨calls, rfl⟩ := filling.of_success success
      refine ⟨?_, ?_, fun _ => populated_of_resolved resolved⟩
      · rw [plan, fillings, if_pos content, if_pos content, List.map_append, opened.calls,
          List.map_cons, call, calls, List.singleton_append]
      · rw [fillings, if_pos content] }

theorem accounted (ran : w.runJobs id compiled.jobs v = (p, u))
    (populating : Populating id false compiled.jobs p ys) : ∃ bound, Accounted w id t compiled bound p.jobs s
      (p.outcome ⟨id, compiled.operations.length, 0⟩) u (xs ++ ys) := by
  cases populating with
  | nothing empty => exact ⟨[], opened.accounted_of_nothing empty ran⟩
  | unread content call failed => exact ⟨[], opened.accounted_of_unread content call failed ran⟩
  | unbound content call read claimed =>
    exact ⟨_, opened.accounted_of_unbound content call read claimed ran⟩
  | bound content call read claimed filling =>
    exact ⟨_, opened.accounted_of_bound content call read claimed filling ran⟩

end Opened

end

theorem Phases.accounted {w : Writer σ} {id : DocumentId} {t : Template} (h : Template.Proper t)
    {s u : Session σ} {r : Except Failure Update} {xs : List Exchange}
    (phases : Phases w id (.ofDraft ⟨t, false⟩) s r u xs) :
    ∃ compiled bound left, Accounted w id t compiled bound left s r u xs := by
  cases phases with
  | @unopened _ f _ opening =>
    cases opening with
    | unmeasured call read unmeasured => cases unmeasured
    | @unread x _ call failed =>
      refine ⟨compiledAt t 1, [], _, accounted_of_prefix ?_ ?_ ?_ ?_ f⟩
      · intro y document hy answered
        cases hy
        exact absurd ⟨document, answered⟩ (not_answered failed)
      · rw [List.map_singleton, call]
        exact ⟨_, rfl⟩
      · exact List.forall_mem_nil _
      · exact ⟨x, List.mem_singleton_self x, not_answered failed⟩
    | @uncreated x y document _ call read update failed =>
      refine ⟨compiledAt t (Snapshot.ofJson document).endIndex, [], _,
        accounted_of_prefix ?_ ?_ ?_ ?_ f⟩
      · intro z document' hz answered
        cases hz
        cases read.symm.trans answered
        exact (compile_eq_compiledAt h (one_le_endIndex _)).1
      · have edits : updates id (compiledAt t (Snapshot.ofJson document).endIndex).operations =
          [y.call] := update
        rw [opening, edits, List.map_cons, call]
        exact ⟨[], rfl⟩
      · exact List.forall_mem_singleton.mpr ⟨document, read⟩
      · exact ⟨y, by simp, not_answered failed⟩
  | @opened v u created p xs ys opening begun reached ran populating =>
    cases opening with
    | @created x zs document call read measured calls answered =>
      obtain ⟨compiles, jobs⟩ := compile_eq_compiledAt h (one_le_endIndex (Snapshot.ofJson document))
      change w.runJobs id (Template.jobs t) v = (p, u) at ran
      change Populating id false (Template.jobs t) p ys at populating
      rw [← jobs] at ran populating
      have opened : Opened id t (compiledAt t (Snapshot.ofJson document).endIndex) s v (x :: zs) := {
        compiles := by
          intro z document' hz answered
          cases hz
          cases read.symm.trans answered
          exact compiles
        calls := by
          rw [List.map_cons, call, calls]
          rfl
        answered := List.forall_mem_cons.mpr ⟨⟨document, read⟩, answered⟩
        reached := reached }
      obtain ⟨bound, accounted⟩ := opened.accounted ran populating
      exact ⟨_, bound, _, accounted⟩

/-- Writing a template makes the calls of its plan, one after the other, until one of them fails or a
table is not found, and none after that. Each table that receives content receives it in one batch,
in the order of the template; the jobs before the one whose batch has failed are populated, and it
and those behind it are resolved. A run that succeeds has made all calls and populated all jobs. -/
theorem appendTemplate_accounted (w : Writer σ) (id : DocumentId) {given : Json} {t : Template}
    (accepted : Template.ofJson given = .ok t) (s : Session σ) :
    ∃ r u xs compiled bound left, w.appendTemplate id given s = (r, u) ∧ s.Makes u xs ∧
      Accounted w id t compiled bound left s r u xs := by
  obtain ⟨r, u, xs, run, made, phases⟩ := phases_inTwoPhases w id (.ofDraft ⟨t, false⟩) s
  obtain ⟨compiled, bound, left, accounted⟩ := phases.accounted (Template.proper_of_ofJson accepted)
  have template := appendTemplate_eq w id (Template.Draft.ofJson_eq accepted)
  exact ⟨r, u, xs, compiled, bound, left, template ▸ run, made, accounted⟩

/-- Two tables with a header each. -/
def headedTables : Json :=
  let table (header : String) : Json := .obj [("type", .str "table"), ("rows", .num (.int 1)),
    ("columns", .num (.int 1)), ("headers", .arr [.str header])]
  .obj [("elements", .arr [table "A", table "B"])]

/-- A snapshot in which the two tables are found. -/
def createdTables : Json :=
  let table (start : Int) : Json := .obj [("startIndex", .num (.int start)), ("table", .obj
    [("tableRows", .arr [.obj [("tableCells", .arr [.obj [("content",
      .arr [.obj [("startIndex", .num (.int (start + 3)))]])]])]])])]
  .obj [("body", .obj [("content", .arr [table 2, table 9])])]

/-- The batch for the second table fails. -/
def halfPopulated : Session (List (Except Failure Json)) :=
  ⟨[.ok (.obj []), .ok .null, .ok createdTables, .ok .null,
    .error (.http ⟨.num (.int 403), "Forbidden", .null, none⟩)], 0, []⟩

theorem headedTables_accounted : ∃ t r u xs compiled bound left,
    Template.ofJson headedTables = .ok t ∧
    scripted.appendTemplate (some "doc") headedTables halfPopulated = (r, u) ∧ xs.length = 5 ∧
    halfPopulated.Makes u xs ∧
    Accounted scripted (some "doc") t compiled bound left halfPopulated r u xs := by
  have accepted : ∃ t, Template.ofJson headedTables = .ok t := ⟨_, by with_unfolding_all rfl⟩
  obtain ⟨t, accepted⟩ := accepted
  obtain ⟨r, u, xs, compiled, bound, left, run, made, accounted⟩ :=
    appendTemplate_accounted scripted (some "doc") accepted halfPopulated
  have length : xs.length = 5 := by
    have all : (scripted.appendTemplate (some "doc") headedTables halfPopulated).2.exchanges = xs := by
      rw [run]
      exact made
    rw [← all]
    with_unfolding_all rfl
  exact ⟨t, r, u, xs, compiled, bound, left, accepted, run, length, made, accounted⟩

end Docwright.Writer
