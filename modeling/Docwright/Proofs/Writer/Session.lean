import Docwright.Proofs.Replay.Writing
import Docwright.Writer.Session

namespace Docwright.Writer

open Edit

variable {σ α β : Type}

instance : LawfulMonad (Action σ) := by
  refine LawfulMonad.mk' _ ?_ (fun _ _ => rfl) ?_
  · intro α x
    funext s
    change (x.andThen fun a => .done a) s = x s
    unfold Action.andThen
    rcases x s with ⟨_ | _, t⟩ <;> rfl
  · intro α β γ x f g
    funext s
    change ((x.andThen f).andThen g) s = (x.andThen fun a => (f a).andThen g) s
    unfold Action.andThen
    rcases x s with ⟨_ | _, t⟩ <;> rfl

@[simp]
theorem Action.settled_ok (a : α) : (Action.settled (.ok a) : Action σ α) = pure a :=
  rfl

theorem Action.warn_nil : (Action.warn [] : Action σ Unit) = pure () := by
  funext s
  change (_, { s with history := s.history ++ [] }) = (_, s)
  rw [List.append_nil]

theorem Action.bind_of_ok {x : Action σ α} {s t : Session σ} {a : α} (h : x s = (.ok a, t))
    (f : α → Action σ β) : (x >>= f) s = f a t := by
  change x.andThen f s = _
  rw [Action.andThen, h]

theorem Action.bind_of_error {x : Action σ α} {s t : Session σ} {f : Failure}
    (h : x s = (.error f, t)) (g : α → Action σ β) : (x >>= g) s = (.error f, t) := by
  change x.andThen g s = _
  rw [Action.andThen, h]

/-- What succeeds once its errors are reported has no errors. -/
theorem mapError_eq_ok {ε : Type} {e : Except ε α} {report : ε → Failure} {a : α}
    (h : e.mapError report = .ok a) : e = .ok a := by
  cases e with
  | error => cases h
  | ok =>
    cases h
    rfl

theorem endOf_bind (w : Writer σ) (id : DocumentId) (f : Int → Action σ α) :
    w.endOf id >>= f = w.fetch id >>= fun document => f (Snapshot.ofJson document).endIndex := by
  simp only [endOf, bind_assoc, pure_bind]

theorem submitEdits_ok (w : Writer σ) (id : DocumentId) (operation : String)
    (ops : List Operation) :
    w.submitEdits id operation (.ok ops) =
      w.submit id ops operation >>= fun _ => pure { documentId := id, operations := ops.length } :=
  rfl

theorem one_le_endIndex (s : Snapshot) : 1 ≤ s.endIndex := by
  unfold Snapshot.endIndex
  split
  · exact Int.le_refl 1
  · exact Int.le_max_right _ 1

theorem editsAt_eq {index : Int} (first : 1 ≤ index) (build : Builder → Except Refusal Builder)
    {built : Builder} (h : build ⟨index, []⟩ = .ok built) :
    editsAt index build = .ok built.operations := by
  have begun : Builder.start index = .ok ⟨index, []⟩ := if_neg (by omega)
  unfold editsAt
  rw [Replay.bind_of_ok begun, Replay.bind_of_ok h]
  rfl

/-- The exchange has brought an answer. -/
def Exchange.Answered (x : Exchange) : Prop :=
  ∃ v, x.answer = .ok v

theorem not_answered {x : Exchange} {f : Failure} (failed : x.answer = .error f) : ¬x.Answered := by
  rintro ⟨v, answered⟩
  rw [failed] at answered
  cases answered

def Entry.exchange? : Entry → Option Exchange
  | .exchange x => some x
  | .warning _ => none

def Session.exchanges (s : Session σ) : List Exchange :=
  s.history.filterMap Entry.exchange?

/-- From `s` to `t`, these exchanges have been made and no others. -/
def Session.Makes (s t : Session σ) (xs : List Exchange) : Prop :=
  t.exchanges = s.exchanges ++ xs

theorem Session.Makes.none (s : Session σ) : s.Makes s [] :=
  (List.append_nil _).symm

theorem Session.Makes.trans {s t u : Session σ} {xs ys : List Exchange} (h : s.Makes t xs)
    (h' : t.Makes u ys) : s.Makes u (xs ++ ys) := by
  rw [Session.Makes, h', h, List.append_assoc]

theorem Session.Makes.unique {s t : Session σ} {xs ys : List Exchange} (h : s.Makes t xs)
    (h' : s.Makes t ys) : xs = ys :=
  List.append_cancel_left (h.symm.trans h')

theorem perform_makes (w : Writer σ) (operation : String) (call : Call) (s : Session σ) :
    ∃ x t, w.perform operation call s = (x.answer, t) ∧ s.Makes t [x] ∧ x.call = call :=
  ⟨_, _, rfl, List.filterMap_append, rfl⟩

theorem fetch_makes (w : Writer σ) (id : DocumentId) (s : Session σ) :
    ∃ x t, w.fetch id s = (x.answer, t) ∧ s.Makes t [x] ∧ x.call = .get id :=
  perform_makes w _ _ s

theorem warn_makes (texts : List String) (s : Session σ) :
    ∃ t, Action.warn texts s = (.ok (), t) ∧ s.Makes t [] := by
  refine ⟨_, rfl, ?_⟩
  have none : (texts.map Entry.warning).filterMap Entry.exchange? = [] := by
    simp [List.filterMap_map, Function.comp_def, Entry.exchange?]
  simp only [Session.Makes, Session.exchanges, List.filterMap_append, none]

/-- The call that submits a batch, if there is anything in it. -/
def updates (id : DocumentId) (ops : List Operation) : List Call :=
  if ops.isEmpty then [] else [.update id (requests ops)]

/-- Submitting a batch makes its call, if it has one, and ends as that call does. -/
theorem submit_cases (w : Writer σ) (id : DocumentId) (ops : List Operation) (operation : String)
    (s : Session σ) :
    (∃ xs t v, w.submit id ops operation s = (.ok v, t) ∧ s.Makes t xs ∧
      xs.map Exchange.call = updates id ops ∧ ∀ x ∈ xs, x.Answered) ∨
    ∃ x t f, w.submit id ops operation s = (.error f, t) ∧ s.Makes t [x] ∧
      updates id ops = [x.call] ∧ x.answer = .error f := by
  unfold submit updates
  cases ops.isEmpty with
  | true => exact .inl ⟨[], s, .null, rfl, .none s, rfl, List.forall_mem_nil _⟩
  | false =>
    obtain ⟨x, t, run, made, call⟩ := perform_makes w operation (.update id (requests ops)) s
    have calls : [x].map Exchange.call = [.update id (requests ops)] := congrArg ([·]) call
    cases ha : x.answer with
    | ok v =>
      rw [ha] at run
      exact .inl ⟨[x], t, v, run, made, calls, List.forall_mem_singleton.mpr ⟨v, ha⟩⟩
    | error f =>
      rw [ha] at run
      exact .inr ⟨x, t, f, run, made, calls.symm, ha⟩

/-- Its service answers calls from a script. -/
def scripted : Writer (List (Except Failure Json)) where
  service
    | _, answer :: rest => (answer, rest)
    | _, [] => (.ok .null, [])
  policy := .standard
  draw _ := 1
  codeFont := "Roboto Mono"

end Docwright.Writer
