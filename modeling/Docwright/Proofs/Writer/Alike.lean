import Docwright.Proofs.Writer.Phases

/-!
Sessions that differ only in the names under which calls were made. The names are written down and
never looked at: what is done under other names has the same results, makes the same calls, and
leaves the service in the same state (`alike_inTwoPhases`).
-/

namespace Docwright.Writer

open Edit

variable {σ α β : Type}

/-- The entry without the name of its operation. -/
def Entry.unnamed : Entry → Entry
  | .exchange x => .exchange { x with operation := "" }
  | .warning text => .warning text

structure Session.Alike (s t : Session σ) : Prop where
  service : s.service = t.service
  draws : s.draws = t.draws
  history : s.history.map Entry.unnamed = t.history.map Entry.unnamed

theorem Session.Alike.refl (s : Session σ) : s.Alike s :=
  ⟨rfl, rfl, rfl⟩

theorem Entry.calls_unnamed (e : Entry) : e.unnamed.calls = e.calls := by
  cases e <;> rfl

theorem Session.Alike.calls {s t : Session σ} (h : s.Alike t) :
    s.history.flatMap Entry.calls = t.history.flatMap Entry.calls := by
  have unnamed (es : List Entry) :
      es.flatMap Entry.calls = (es.map Entry.unnamed).flatMap Entry.calls := by
    simp only [List.flatMap_map, Entry.calls_unnamed]
  rw [unnamed, h.history, ← unnamed]

/-- In sessions that are alike, both have the same result and leave sessions that are alike. -/
def Action.Alike (a b : Action σ α) : Prop :=
  ∀ ⦃s t : Session σ⦄, s.Alike t → (a s).1 = (b t).1 ∧ (a s).2.Alike (b t).2

namespace Action

theorem alike_settled (e : Except Failure α) : (Action.settled e : Action σ α).Alike (.settled e) :=
  fun _ _ h => ⟨rfl, h⟩

theorem alike_pure (a : α) : (pure a : Action σ α).Alike (pure a) :=
  fun _ _ h => ⟨rfl, h⟩

theorem alike_warn (texts : List String) :
    (Action.warn texts : Action σ Unit).Alike (Action.warn texts) := by
  intro s t h
  refine ⟨rfl, h.service, h.draws, ?_⟩
  simp only [warn, List.map_append, h.history]

theorem Alike.run {a b : Action σ α} (h : a.Alike b) {s t : Session σ} (alike : s.Alike t) :
    ∃ r s' t', a s = (r, s') ∧ b t = (r, t') ∧ s'.Alike t' := by
  obtain ⟨same, after⟩ := h alike
  exact ⟨_, _, _, rfl, by rw [same], after⟩

theorem Alike.bind {a b : Action σ α} (h : a.Alike b) {f g : α → Action σ β}
    (next : ∀ x, (f x).Alike (g x)) : (a >>= f).Alike (b >>= g) := by
  intro s t alike
  obtain ⟨_ | x, s', t', run, run', after⟩ := h.run alike
  · rw [bind_of_error run, bind_of_error run']
    exact ⟨rfl, after⟩
  · rw [bind_of_ok run, bind_of_ok run']
    exact next x after

end Action

section

variable (w : Writer σ) (id : DocumentId)

theorem alike_perform (operation operation' : String) (call : Call) :
    (w.perform operation call).Alike (w.perform operation' call) := by
  rintro ⟨service, draws, history⟩ ⟨_, _, history'⟩ ⟨rfl, rfl, same⟩
  refine ⟨rfl, rfl, rfl, ?_⟩
  have same : history.map Entry.unnamed = history'.map Entry.unnamed := same
  simp only [perform, List.map_append, same]
  rfl

theorem alike_fetch : (w.fetch id).Alike (w.fetch id) :=
  alike_perform w _ _ _

theorem alike_submit (ops : List Operation) (operation operation' : String) :
    (w.submit id ops operation).Alike (w.submit id ops operation') := by
  unfold submit
  split
  · exact Action.alike_pure _
  · exact alike_perform w operation operation' _

theorem alike_fillJob (marked : Bool) (j : Table.Job) :
    (w.fillJob id marked j).Alike (w.fillJob id marked j) := by
  refine (Action.alike_settled _).bind fun ops => (Action.alike_settled _).bind fun _ => ?_
  refine (alike_submit w id ops _ _).bind fun _ => ?_
  exact (Action.alike_settled _).bind fun _ => Action.alike_pure _

theorem alike_fillJobs (marked : Bool) (jobs : List Table.Job) {s t : Session σ} (h : s.Alike t) :
    (w.fillJobs id marked jobs s).1 = (w.fillJobs id marked jobs t).1 ∧
      (w.fillJobs id marked jobs s).2.Alike (w.fillJobs id marked jobs t).2 := by
  induction jobs generalizing s t with
  | nil => exact ⟨rfl, h⟩
  | cons j js ih =>
    obtain ⟨_ | ⟨n, done⟩, s', t', run, run', after⟩ := (alike_fillJob w id marked j).run h
    · simp only [fillJobs, run, run']
      exact ⟨trivial, after⟩
    · obtain ⟨rest, last⟩ := ih after
      simp only [fillJobs, run, run', rest]
      exact ⟨trivial, last⟩

theorem alike_bindJobs (jobs : List Table.Job) (document : Json) :
    (bindJobs jobs document : Action σ _).Alike (bindJobs jobs document) :=
  (Action.alike_warn _).bind fun _ => Action.alike_pure _

theorem alike_runJobs (jobs : List Table.Job) (marked : Bool) {s t : Session σ} (h : s.Alike t) :
    (w.runJobs id jobs s marked).1 = (w.runJobs id jobs t marked).1 ∧
      (w.runJobs id jobs s marked).2.Alike (w.runJobs id jobs t marked).2 := by
  have found : Action.Alike ((w.fetch id).andThen (bindJobs jobs))
      ((w.fetch id).andThen (bindJobs jobs)) :=
    (alike_fetch w id).bind fun document => alike_bindJobs jobs document
  unfold runJobs
  split
  · exact ⟨rfl, h⟩
  · obtain ⟨_ | ⟨bound, _ | o⟩, s', t', run, run', after⟩ := found.run h
    · simp only [run, run']
      exact ⟨trivial, after⟩
    · simp only [run, run']
      exact alike_fillJobs w id marked bound after
    · simp only [run, run']
      exact ⟨trivial, after⟩

theorem alike_populate (jobs : List Table.Job) (marked : Bool) :
    (w.populate id jobs marked).Alike (w.populate id jobs marked) := by
  intro s t h
  obtain ⟨same, after⟩ := alike_runJobs w id jobs marked h
  exact ⟨by simp only [populate, same], after⟩

theorem alike_inTwoPhases (c : Contents) (operation : String) :
    (w.inTwoPhases id c).Alike (w.inTwoPhases id { c with operation }) := by
  unfold inTwoPhases firstPhase
  rw [endOf_bind, endOf_bind]
  refine Action.Alike.bind ?_ fun created => ?_
  · refine (alike_fetch w id).bind fun document => (Action.alike_warn _).bind fun _ => ?_
    refine (Action.alike_settled _).bind fun _ => ?_
    exact (alike_submit w id _ c.operation operation).bind fun _ => Action.alike_pure _
  · exact (alike_populate w id c.jobs c.marked).bind fun _ => Action.alike_pure _

end

end Docwright.Writer
