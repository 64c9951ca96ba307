import Docwright.Log
import Mathlib.Data.ENat.Lattice

namespace Docwright.Retry

section

variable {α σ : Type} (call : σ → Except Failure α × σ) (state : σ)

def stateAfter (k : Nat) : σ :=
  (fun s => (call s).2)^[k] state

/-- The outcome of try `k`, the first one being number zero, when all before it have been made. -/
def outcome (k : Nat) : Except Failure α :=
  (call (stateAfter call state k)).1

/-- An outcome after which a call is tried again. -/
def Passing (o : Except Failure α) : Prop :=
  ∃ e, o = .error e ∧ e.retryable? = some true

/-- How many tries it takes to get an outcome that is not passing, if ever. -/
noncomputable def triesToSettle : ℕ∞ :=
  ⨅ (k : ℕ) (_ : ¬Passing (outcome call state k)), (k + 1 : ℕ∞)

/-- What a run reports for its last outcome. -/
def reported : Except Failure α → Except Failure α
  | .ok a => .ok a
  | .error e => if e.retryable? = none then .error (.unordered e.status) else .error e

end

section

variable {δ : Type} [Delay δ] (p : Policy δ) (draw : Nat → δ)

/-- A backoff, with the number of draws that have been taken before it. -/
abbrev Wait (δ : Type) := δ × Nat

def Policy.nextWait (w : Wait δ) : Wait δ :=
  (delayAfter w.1 p.maxBackoff p.multiplier, if takesDraw w.1 then w.2 + 1 else w.2)

/-- The delay before retry `k` of a run that starts to wait with `w`. -/
def Policy.delay (w : Wait δ) (k : Nat) : δ :=
  let now := p.nextWait^[k] w
  shortened now.1 (draw now.2)

def Event.retry? : Event δ → Option (Nat × Failure × δ)
  | .retrying attempt e delay => some (attempt, e, delay)
  | _ => none

def Event.isCall : Event δ → Bool
  | .called => true
  | _ => false

variable {α σ : Type} (call : σ → Except Failure α × σ) (state : σ)

def Run.tries (r : Run δ α σ) : Nat :=
  r.events.countP Event.isCall

/-- What happens in a try that is followed by another one. -/
def roundOf (attempt : Nat) (delay : δ) : Except Failure α → List (Event δ)
  | .ok _ => []
  | .error e =>
    .called :: .retrying attempt e delay ::
      if Delay.lt Delay.zero delay then [.slept delay] else []

def round (attempt : Nat) (w : Wait δ) (k : Nat) : List (Event δ) :=
  roundOf (attempt + k) (p.delay draw w k) (outcome call state k)

/-- What happens after the last call, which is try number `attempt`. -/
def closing (attempt : Nat) : Except Failure α → List (Event δ)
  | .ok _ => []
  | .error e => if e.retryable? = some true then [.gaveUp attempt e] else []

/-! ## Where a run ends -/

/-- A run of at most `left` retries that makes `n` of them. -/
structure Tried (left attempt : Nat) (w : Wait δ) (n : Nat) (r : Run δ α σ) : Prop where
  allowed : n ≤ left
  passing : ∀ k < n, Passing (outcome call state k)
  last : n = left ∨ ¬Passing (outcome call state n)
  leaves : r.state = stateAfter call state (n + 1)
  result : r.result = reported (outcome call state n)
  events : r.events = (List.range n).flatMap (round p draw call state attempt w) ++
    .called :: closing (attempt + n) (outcome call state n)

variable {p draw call state} {left attempt n : Nat} {w : Wait δ} {r : Run δ α σ}

theorem tried_of_last {events : List (Event δ)} {draws : Nat}
    (last : left = 0 ∨ ¬Passing (call state).1)
    (closed : events = .called :: closing attempt (call state).1) :
    Tried p draw call state left attempt w 0
      ⟨reported (call state).1, (call state).2, draws, events⟩ where
  allowed := Nat.zero_le _
  passing := fun k hk => absurd hk (Nat.not_lt_zero k)
  last := last.imp_left Eq.symm
  leaves := rfl
  result := rfl
  events := closed

/-- One more try in front of a run. -/
theorem Tried.cons {e : Failure} {next : σ} (called : call state = (.error e, next))
    (passing : e.retryable? = some true)
    (h : Tried p draw call next left (attempt + 1) (p.nextWait w) n r) :
    Tried p draw call state (left + 1) attempt w (n + 1)
      { r with events := roundOf attempt (p.delay draw w 0) (.error e : Except Failure α) ++ r.events } := by
  have first : outcome call state 0 = .error e := congrArg Prod.fst called
  have later (k : Nat) : outcome call state (k + 1) = outcome call next k := by
    rw [outcome, stateAfter, Function.iterate_succ_apply, called]
    rfl
  have shifted (k : Nat) : round p draw call next (attempt + 1) (p.nextWait w) k =
      round p draw call state attempt w (k + 1) := by
    rw [round, round, later, Nat.add_right_comm, Nat.add_assoc]
    rfl
  exact {
    allowed := Nat.succ_le_succ h.allowed
    passing := by
      intro k hk
      cases k with
      | zero => exact ⟨e, first, passing⟩
      | succ k => rw [later]; exact h.passing k (Nat.lt_of_succ_lt_succ hk)
    last := by rw [later]; exact h.last.imp_left (congrArg (· + 1))
    leaves := by
      rw [h.leaves, stateAfter, stateAfter, Function.iterate_succ_apply _ (n + 1), called]
    result := by rw [h.result, later]
    events := by
      have rounds : round p draw call next (attempt + 1) (p.nextWait w) =
          fun k => round p draw call state attempt w (k + 1) := funext shifted
      have here : round p draw call state attempt w 0 =
          roundOf attempt (p.delay draw w 0) (.error e : Except Failure α) := by rw [round, first]; rfl
      rw [h.events, rounds, later, List.range_succ_eq_map, List.flatMap_cons, List.flatMap_map, here,
        List.append_assoc, Nat.add_right_comm attempt 1 n, Nat.add_assoc attempt n 1] }

omit [Delay δ] in
theorem closing_of_not_passing {o : Except Failure α} (settled : ¬Passing o) (attempt : Nat) :
    (closing attempt o : List (Event δ)) = [] := by
  cases o with
  | ok a => rfl
  | error e => exact if_neg fun passing => settled ⟨e, rfl, passing⟩

theorem tryFrom_of_not_passing (settled : ¬Passing (call state).1) :
    tryFrom p draw call left attempt w.1 w.2 state =
      ⟨reported (call state).1, (call state).2, w.2, [.called]⟩ := by
  unfold tryFrom
  cases hc : call state with
  | mk o next =>
    rw [hc] at settled
    cases o with
    | ok a => rfl
    | error e =>
      cases hr : e.retryable? with
      | none => simp only [reported, hr, ↓reduceIte]
      | some again =>
        cases again with
        | true => exact absurd ⟨e, rfl, hr⟩ settled
        | false => simp only [reported, hr, reduceCtorEq, ↓reduceIte]

theorem tryFrom_zero_of_passing {e : Failure} {next : σ} (called : call state = (.error e, next))
    (again : e.retryable? = some true) : tryFrom p draw call 0 attempt w.1 w.2 state =
      ⟨reported (call state).1, (call state).2, w.2, .called :: closing attempt (call state).1⟩ := by
  unfold tryFrom
  simp only [called, again, reported, closing, reduceCtorEq, ↓reduceIte]

theorem tried_tryFrom (left attempt : Nat) (w : Wait δ) (state : σ) :
    ∃ n, Tried p draw call state left attempt w n (tryFrom p draw call left attempt w.1 w.2 state) := by
  induction left generalizing attempt w state with
  | zero =>
    refine ⟨0, ?_⟩
    by_cases passing : Passing (call state).1
    · obtain ⟨e, failed, again⟩ := passing
      rw [tryFrom_zero_of_passing (Prod.ext failed rfl) again]
      exact tried_of_last (.inl rfl) rfl
    · rw [tryFrom_of_not_passing passing]
      exact tried_of_last (.inr passing) (by rw [closing_of_not_passing passing])
  | succ left ih =>
    by_cases passing : Passing (call state).1
    · obtain ⟨e, failed, again⟩ := passing
      have called : call state = (.error e, (call state).2) := Prod.ext failed rfl
      obtain ⟨n, rest⟩ := ih (attempt + 1) (p.nextWait w) (call state).2
      refine ⟨n + 1, ?_⟩
      unfold tryFrom
      rw [called]
      simp only [again]
      exact rest.cons called again
    · rw [tryFrom_of_not_passing passing]
      exact ⟨0, tried_of_last (.inr passing) (by rw [closing_of_not_passing passing])⟩

theorem tried_run (p : Policy δ) (draw : Nat → δ) (call : σ → Except Failure α × σ) (draws : Nat)
    (state : σ) : ∃ n, Tried p draw call state (p.maxAttempts - 1).toNat 1 (p.initialBackoff, draws) n
      (run p draw call draws state) :=
  tried_tryFrom _ _ (p.initialBackoff, draws) state

/-! ## What follows from the number of tries -/

/-- The retries of a run with `n` of them: the number of the try that failed, its failure, and the
delay before the next one. -/
def retriesUpTo (p : Policy δ) (draw : Nat → δ) (call : σ → Except Failure α × σ) (state : σ)
    (attempt : Nat) (w : Wait δ) (n : Nat) : List (Nat × Failure × δ) :=
  (List.range n).flatMap fun k => match outcome call state k with
    | .ok _ => []
    | .error e => [(attempt + k, e, p.delay draw w k)]

theorem roundOf_cases (number : Nat) (delay : δ) (e : Failure) :
    roundOf number delay (.error e : Except Failure α) = [.called, .retrying number e delay] ∨
      roundOf number delay (.error e : Except Failure α) =
        [.called, .retrying number e delay, .slept delay] := by
  by_cases waits : Delay.lt Delay.zero delay
  · exact .inr (by simp only [roundOf, waits, ↓reduceIte])
  · exact .inl (by simp only [roundOf, waits, Bool.false_eq_true, ↓reduceIte])

omit [Delay δ] in
theorem closing_cases (number : Nat) (o : Except Failure α) :
    (closing number o : List (Event δ)) = [] ∧ ¬Passing o ∨
      ∃ e, (closing number o : List (Event δ)) = [.gaveUp number e] ∧ Passing o := by
  by_cases passing : Passing o
  · obtain ⟨e, rfl, again⟩ := passing
    exact .inr ⟨e, if_pos again, e, rfl, again⟩
  · exact .inl ⟨closing_of_not_passing passing number, passing⟩

theorem countP_rounds {f : Event δ → Bool} {m : Nat} (passing : ∀ k < n, Passing (outcome call state k))
    (each : ∀ number delay e, (roundOf number delay (.error e : Except Failure α)).countP f = m) :
    ((List.range n).flatMap (round p draw call state attempt w)).countP f = n * m := by
  induction n with
  | zero => simp
  | succ n ih =>
    obtain ⟨e, failed, _⟩ := passing n (Nat.lt_succ_self n)
    have last : (round p draw call state attempt w n).countP f = m := by
      rw [round, failed]
      exact each _ _ e
    rw [List.range_succ, List.flatMap_append, List.countP_append, ih fun k hk =>
      passing k (Nat.lt_succ_of_lt hk), List.flatMap_singleton, last, Nat.succ_mul]

section

variable (h : Tried p draw call state left attempt w n r)

include h

/-- Events of a kind that every round has equally many of. -/
theorem Tried.countP_eq {f : Event δ → Bool} {m : Nat}
    (each : ∀ number delay e, (roundOf number delay (.error e : Except Failure α)).countP f = m) :
    r.events.countP f =
      n * m + (Event.called :: closing (attempt + n) (outcome call state n)).countP f := by
  rw [h.events, List.countP_append, countP_rounds h.passing each]

theorem Tried.tries_eq : r.tries = n + 1 := by
  have each (number : Nat) (delay : δ) (e : Failure) :
      (roundOf number delay (.error e : Except Failure α)).countP Event.isCall = 1 := by
    rcases roundOf_cases (α := α) number delay e with shape | shape <;> rw [shape] <;> rfl
  have last : (Event.called :: closing (attempt + n) (outcome call state n) :
      List (Event δ)).countP Event.isCall = 1 := by
    rcases closing_cases (δ := δ) (attempt + n) (outcome call state n) with ⟨shape, _⟩ | ⟨e, shape, _⟩ <;>
      rw [shape] <;> rfl
  rw [Run.tries, h.countP_eq each, last, Nat.mul_one]

theorem Tried.tries_eq_min : (r.tries : ℕ∞) = min (triesToSettle call state) (left + 1 : ℕ) := by
  rw [h.tries_eq]
  apply le_antisymm
  · apply le_min
    · refine le_iInf₂ fun k settled => ?_
      have reached : n ≤ k := by
        by_contra earlier
        exact settled (h.passing k (by omega))
      exact_mod_cast Nat.succ_le_succ reached
    · exact_mod_cast Nat.succ_le_succ h.allowed
  · rcases h.last with all | settled
    · rw [all]
      exact min_le_right _ _
    · exact (min_le_left _ _).trans (iInf₂_le n settled)

theorem Tried.filterMap_retry? : r.events.filterMap Event.retry? =
    retriesUpTo p draw call state attempt w n := by
  have closed : (Event.called :: closing (attempt + n) (outcome call state n) : List (Event δ)).filterMap
      Event.retry? = [] := by
    rcases closing_cases (δ := δ) (attempt + n) (outcome call state n) with ⟨shape, _⟩ | ⟨e, shape, _⟩ <;>
      rw [shape] <;> rfl
  have each (k : Nat) : (round p draw call state attempt w k).filterMap Event.retry? =
      match outcome call state k with
      | .ok _ => []
      | .error e => [(attempt + k, e, p.delay draw w k)] := by
    unfold round
    cases outcome call state k with
    | ok a => rfl
    | error e =>
      rcases roundOf_cases (α := α) (attempt + k) (p.delay draw w k) e with shape | shape <;>
        rw [shape] <;> rfl
  rw [h.events, List.filterMap_append, closed, List.append_nil, List.filterMap_flatMap, retriesUpTo]
  simp only [each]

theorem Tried.exists_called_cons : ∃ rest, r.events = .called :: rest := by
  rw [h.events]
  cases n with
  | zero => exact ⟨_, rfl⟩
  | succ n =>
    obtain ⟨e, failed, _⟩ := h.passing 0 (Nat.succ_pos n)
    have first : round p draw call state attempt w 0 = roundOf attempt (p.delay draw w 0)
        (.error e : Except Failure α) := by rw [round, failed]; rfl
    rw [List.range_succ_eq_map, List.flatMap_cons, first]
    rcases roundOf_cases (α := α) attempt (p.delay draw w 0) e with shape | shape <;>
      rw [shape] <;> exact ⟨_, rfl⟩

/-- A sleep has a call in front of it and one behind it. -/
theorem Tried.called_around {before after : List (Event δ)} {d : δ}
    (slept : r.events = before ++ .slept d :: after) : .called ∈ before ∧ .called ∈ after := by
  constructor
  · obtain ⟨rest, begun⟩ := h.exists_called_cons
    rcases List.append_eq_cons_iff.mp (slept.symm.trans begun) with ⟨_, here⟩ | ⟨more, rfl, _⟩
    · cases here
    · exact List.mem_cons_self
  · have awake : (Event.slept d : Event δ) ∉
        Event.called :: closing (attempt + n) (outcome call state n) := by
      rcases closing_cases (δ := δ) (attempt + n) (outcome call state n) with ⟨shape, _⟩ | ⟨e, shape, _⟩ <;>
        simp [shape]
    rcases List.append_eq_append_iff.mp (slept.symm.trans h.events) with
      ⟨more, _, behind⟩ | ⟨more, _, behind⟩
    · rcases List.cons_eq_append_iff.mp behind with ⟨_, here⟩ | ⟨more', _, rfl⟩
      · cases here
      · exact List.mem_append_right _ List.mem_cons_self
    · exact absurd (behind ▸ List.mem_append_right _ List.mem_cons_self) awake

end

end

/-! ## Log lines -/

section

variable {α σ : Type} {call : σ → Except Failure α × σ} {state : σ}

/-- Whether an event leaves a line of a level. -/
def Event.logsAt (operation : String) (maxAttempts : Int) (level : LogLevel) (e : Event Number) : Bool :=
  ((e.log? operation maxAttempts).map fun line => decide (line.level = level)).getD false

def Run.linesAt (r : Run Number α σ) (operation : String) (maxAttempts : Int) (level : LogLevel) : Nat :=
  (r.lines operation maxAttempts).countP (·.level = level)

theorem Run.linesAt_eq (r : Run Number α σ) (operation : String) (maxAttempts : Int)
    (level : LogLevel) : r.linesAt operation maxAttempts level =
      r.events.countP (Event.logsAt operation maxAttempts level) := by
  rw [Run.linesAt, Run.lines, List.countP_filterMap]
  rfl

variable {p : Policy Number} {draw : Nat → Number} {left attempt n : Nat} {w : Wait Number}
  {r : Run Number α σ} (h : Tried p draw call state left attempt w n r)

include h

theorem Tried.linesAt_warning (operation : String) (maxAttempts : Int) :
    r.linesAt operation maxAttempts .warning = n := by
  have each (number : Nat) (delay : Number) (e : Failure) :
      (roundOf number delay (.error e : Except Failure α)).countP
        (Event.logsAt operation maxAttempts .warning) = 1 := by
    rcases roundOf_cases (α := α) number delay e with shape | shape <;> rw [shape] <;> rfl
  have last : (Event.called :: closing (attempt + n) (outcome call state n)).countP
      (Event.logsAt operation maxAttempts .warning) = 0 := by
    rcases closing_cases (δ := Number) (attempt + n) (outcome call state n) with
      ⟨shape, _⟩ | ⟨e, shape, _⟩ <;> rw [shape] <;> rfl
  rw [r.linesAt_eq, h.countP_eq each, last, Nat.mul_one, Nat.add_zero]

/-- There is a line of failure exactly when the last try allowed has failed in a passing way. -/
theorem Tried.linesAt_failure (operation : String) (maxAttempts : Int) :
    r.linesAt operation maxAttempts .failure ≤ 1 ∧
      (r.linesAt operation maxAttempts .failure = 1 ↔ n = left ∧ Passing (outcome call state n)) := by
  have each (number : Nat) (delay : Number) (e : Failure) :
      (roundOf number delay (.error e : Except Failure α)).countP
        (Event.logsAt operation maxAttempts .failure) = 0 := by
    rcases roundOf_cases (α := α) number delay e with shape | shape <;> rw [shape] <;> rfl
  have counted : r.linesAt operation maxAttempts .failure =
      (Event.called :: closing (attempt + n) (outcome call state n)).countP
        (Event.logsAt operation maxAttempts .failure) := by
    rw [r.linesAt_eq, h.countP_eq each, Nat.mul_zero, Nat.zero_add]
  rcases closing_cases (δ := Number) (attempt + n) (outcome call state n) with
    ⟨shape, settled⟩ | ⟨e, shape, passing⟩
  · have none : r.linesAt operation maxAttempts .failure = 0 := by rw [counted, shape]; rfl
    rw [none]
    exact ⟨Nat.zero_le 1, fun absent => absurd absent Nat.zero_ne_one, fun last => absurd last.2 settled⟩
  · have one : r.linesAt operation maxAttempts .failure = 1 := by rw [counted, shape]; rfl
    have all : n = left := h.last.resolve_right fun settled => settled passing
    rw [one]
    exact ⟨Nat.le_refl 1, fun _ => ⟨all, passing⟩, fun _ => rfl⟩

end

/-! ## Runs as a policy allows them -/

/-- What a run of `call` from `state` on keeps to, when `draws` draws have been taken before. -/
structure Disciplined {α σ : Type} (p : Policy Number) (draw : Nat → Number) (operation : String)
    (call : σ → Except Failure α × σ) (draws : Nat) (state : σ) (r : Run Number α σ) : Prop where
  tries : (r.tries : ℕ∞) = min (triesToSettle call state) (p.maxAttempts.toNat : ℕ)
  leaves : r.state = stateAfter call state r.tries
  result : ∀ o, outcome call state (r.tries - 1) = o → (∀ e, o = .error e → e.retryable? ≠ none) →
    r.result = o
  /-- It cannot be told of the last failure whether it may pass. -/
  untold : ∀ e, outcome call state (r.tries - 1) = .error e → e.retryable? = none →
    r.result = .error (.unordered e.status)
  sleeps : ∀ before d after, r.events = before ++ .slept d :: after →
    .called ∈ before ∧ .called ∈ after
  retries : r.events.filterMap Event.retry? =
    retriesUpTo p draw call state 1 (p.initialBackoff, draws) (r.tries - 1)
  warnings : r.linesAt operation p.maxAttempts .warning + 1 = r.tries
  failures : r.linesAt operation p.maxAttempts .failure ≤ 1 ∧
    (r.linesAt operation p.maxAttempts .failure = 1 ↔
      r.tries = p.maxAttempts.toNat ∧ Passing (outcome call state (r.tries - 1)))

/-- What a policy has to pass to be accepted. -/
structure Policy.Accepted {δ : Type} [Delay δ] (p : Policy δ) : Prop where
  attempts : 1 ≤ p.maxAttempts
  initial : Delay.lt p.initialBackoff Delay.zero = false
  most : Delay.lt p.maxBackoff Delay.zero = false
  factor : Delay.lt p.multiplier Delay.one = false

theorem Policy.check_iff {δ : Type} [Delay δ] (p : Policy δ) : p.check = .ok p ↔ p.Accepted := by
  unfold check
  constructor
  · intro accepted
    split at accepted
    · cases accepted
    · next attempts =>
      split at accepted
      · cases accepted
      · next durations =>
        split at accepted
        · cases accepted
        · next factor =>
          simp only [Bool.or_eq_true, not_or, Bool.not_eq_true] at durations factor
          exact ⟨by omega, durations.1, durations.2, factor⟩
  · intro h
    have attempts := h.attempts
    simp only [h.initial, h.most, h.factor, Bool.or_self, Bool.false_eq_true, ↓reduceIte]
    exact if_neg (by omega)

theorem one_le_maxAttempts {δ : Type} [Delay δ] {p : Policy δ} (accepted : p.check = .ok p) :
    1 ≤ p.maxAttempts :=
  (p.check_iff.mp accepted).attempts

section

variable {ι α σ : Type} {p : Policy Number}

theorem disciplined_run (accepted : p.check = .ok p) (draw : Nat → Number) (operation : String)
    (call : σ → Except Failure α × σ) (draws : Nat) (state : σ) :
    Disciplined p draw operation call draws state (run p draw call draws state) := by
  obtain ⟨n, tried⟩ := tried_run p draw call draws state
  have budget : (p.maxAttempts - 1).toNat + 1 = p.maxAttempts.toNat := by
    have := one_le_maxAttempts accepted
    omega
  have last : (run p draw call draws state).tries - 1 = n := by
    rw [tried.tries_eq]
    rfl
  exact {
    tries := by rw [tried.tries_eq_min, budget]
    leaves := by rw [tried.leaves, tried.tries_eq]
    result := by
      intro o found told
      rw [tried.result, ← last, found]
      cases o with
      | ok a => rfl
      | error e => exact if_neg (told e rfl)
    untold := by
      intro e found untold
      rw [tried.result, ← last, found]
      exact if_pos untold
    sleeps := fun _ _ _ slept => tried.called_around slept
    retries := by rw [last, tried.filterMap_retry?]
    warnings := by rw [tried.linesAt_warning, tried.tries_eq]
    failures := by
      obtain ⟨once, exactly⟩ := tried.linesAt_failure operation p.maxAttempts
      refine ⟨once, exactly.trans ?_⟩
      rw [last, tried.tries_eq, ← budget, Nat.succ_inj] }

/-- Runs of calls of a function, each of them from where the one before it has ended. -/
inductive Served (f : Retried ι α σ) (draw : Nat → Number) :
    Nat → σ → List ι → List (Run Number α σ) → Prop where
  | none (draws : Nat) (state : σ) : Served f draw draws state [] []
  | next {args : ι} {rest : List ι} {draws : Nat} {state : σ} {r : Run Number α σ}
    {runs : List (Run Number α σ)}
    (first : Disciplined f.policy draw f.operation (f.function args) draws state r)
    (others : Served f draw r.draws r.state rest runs) :
    Served f draw draws state (args :: rest) (r :: runs)

theorem served_calls {f : Retried ι α σ} (accepted : f.policy.check = .ok f.policy)
    (draw : Nat → Number) (args : List ι) (draws : Nat) (state : σ) :
    Served f draw draws state args (f.calls draw args draws state) := by
  induction args generalizing draws state with
  | nil => exact .none draws state
  | cons x xs ih => exact .next (disciplined_run accepted draw _ _ draws state) (ih _ _)

/-- A call is tried until its first outcome that does not promise anything from another try, or as
often as the policy allows. It ends with the outcome of its last try; each retry leaves a warning,
and only a call that was given up in spite of a passing failure leaves a line of failure; it is
waited between tries only. That holds of every call of a function, whatever the calls before it have
come to: each has all its tries, starts to wait with the first backoff, and gives the same arguments
to every try. -/
theorem calls_keep_discipline (accepted : p.check = .ok p) (draw : Nat → Number) :
    (∀ (operation : String) (call : σ → Except Failure α × σ) (draws : Nat) (state : σ),
      Disciplined p draw operation call draws state (run p draw call draws state)) ∧
    ∀ f : Retried ι α σ, f.policy = p → ∀ (args : List ι) (draws : Nat) (state : σ),
      Served f draw draws state args (f.calls draw args draws state) := by
  refine ⟨disciplined_run accepted draw, fun f policy args draws state => ?_⟩
  exact served_calls (by rw [policy, accepted]) draw args draws state

end

def unavailable (status : Int) : Failure :=
  .http ⟨.num (.int status), "Error", .null, none⟩

/-- Fails twice, succeeds once, and then goes on failing. The state counts the tries. -/
def flaky : Retried Nat Nat Nat where
  name := "flaky"
  function n tried :=
    (if tried = 2 then .ok (2 * n) else .error (unavailable (if tried = 1 then 429 else 503)), tried + 1)

theorem flaky_calls_keep_discipline : Policy.standard.check = .ok Policy.standard ∧
    (flaky.calls (fun _ => .float 1.0) [21, 5] 0 0).map Run.tries = [3, 3] ∧
    Served flaky (fun _ => .float 1.0) 0 0 [21, 5] (flaky.calls (fun _ => .float 1.0) [21, 5] 0 0) :=
  ⟨rfl, rfl, (calls_keep_discipline (α := Nat) (σ := Nat) rfl _).2 flaky rfl [21, 5] 0 0⟩

end Docwright.Retry
