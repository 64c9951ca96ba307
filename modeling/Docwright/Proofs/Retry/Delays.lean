import Docwright.Proofs.Retry.Discipline

/-!
The delays of a run, whatever the arithmetic that they are computed in. There is one for each retry
(`Tried.delays_eq`), those above zero are slept (`Tried.sleeps_eq`), and each backoff above zero
takes one draw (`draws_tryFrom`).
-/

namespace Docwright.Retry

variable {δ α σ : Type} [Delay δ]

def Event.slept? : Event δ → Option δ
  | .slept delay => some delay
  | _ => none

/-- The delays that a run has come to, in order, those of no time among them. -/
def Run.delays (r : Run δ α σ) : List δ :=
  (r.events.filterMap Event.retry?).map (·.2.2)

/-- The delays that a run has waited. -/
def Run.sleeps (r : Run δ α σ) : List δ :=
  r.events.filterMap Event.slept?

section

variable {p : Policy δ} {draw : Nat → δ} {call : σ → Except Failure α × σ} {state : σ}
  {left attempt n : Nat} {w : Wait δ} {r : Run δ α σ}

theorem slept_roundOf (number : Nat) (delay : δ) (e : Failure) :
    (roundOf number delay (.error e : Except Failure α)).filterMap Event.slept? =
      [delay].filter (Delay.lt Delay.zero) := by
  by_cases waits : Delay.lt Delay.zero delay = true
  · simp only [roundOf, if_pos waits, List.filter_cons_of_pos waits]
    rfl
  · simp only [roundOf, if_neg waits, List.filter_cons_of_neg waits]
    rfl

omit [Delay δ] in
theorem slept_closing (number : Nat) (o : Except Failure α) :
    (Event.called :: closing number o : List (Event δ)).filterMap Event.slept? = [] := by
  rcases closing_cases (δ := δ) number o with ⟨shape, _⟩ | ⟨e, shape, _⟩ <;> rw [shape] <;> rfl

section

variable (h : Tried p draw call state left attempt w n r)

include h

/-- Each retry tells the number of the try in front of it and the delay behind that. -/
theorem Tried.map_retries {β : Type} (f : Nat → δ → β) :
    (r.events.filterMap Event.retry?).map (fun x => f x.1 x.2.2) =
      (List.range n).map fun k => f (attempt + k) (p.delay draw w k) := by
  rw [h.filterMap_retry?, retriesUpTo, List.map_flatMap, List.map_eq_flatMap]
  refine List.flatMap_congr fun k hk => ?_
  obtain ⟨e, failed, _⟩ := h.passing k (List.mem_range.mp hk)
  rw [failed]
  rfl

theorem Tried.delays_eq : r.delays = (List.range n).map (p.delay draw w) :=
  h.map_retries fun _ delay => delay

theorem Tried.numbers_eq :
    (r.events.filterMap Event.retry?).map (·.1) = List.range' attempt n := by
  rw [h.map_retries fun number _ => number, List.range'_eq_map_range]

theorem Tried.sleeps_eq : r.sleeps = r.delays.filter (Delay.lt Delay.zero) := by
  have each : ∀ k ∈ List.range n, (round p draw call state attempt w k).filterMap Event.slept? =
      [p.delay draw w k].filter (Delay.lt Delay.zero) := by
    intro k hk
    obtain ⟨e, failed, _⟩ := h.passing k (List.mem_range.mp hk)
    rw [round, failed, slept_roundOf]
  rw [Run.sleeps, h.delays_eq, h.events, List.filterMap_append, slept_closing, List.append_nil,
    List.filterMap_flatMap, List.map_eq_flatMap, List.filter_flatMap]
  exact List.flatMap_congr each

end

/-- One more try in front of a run. -/
theorem delays_cons (number : Nat) (e : Failure) (delay : δ) (r : Run δ α σ) :
    Run.delays { r with events := .called :: .retrying number e delay ::
      ((if Delay.lt Delay.zero delay then [.slept delay] else []) ++ r.events) } = delay :: r.delays := by
  have unlisted : (if Delay.lt Delay.zero delay then [.slept delay] else [] : List (Event δ)).filterMap
      Event.retry? = [] := by
    split <;> rfl
  simp only [Run.delays, List.filterMap_cons, List.filterMap_append, unlisted, Event.retry?]
  rfl

/-- Every backoff above zero takes a draw, whether its delay is slept or not. -/
theorem draws_tryFrom (left attempt : Nat) (w : Wait δ) (state : σ) :
    let r := tryFrom p draw call left attempt w.1 w.2 state
    r.draws = (p.nextWait^[r.delays.length] w).2 := by
  induction left generalizing attempt w state with
  | zero =>
    by_cases passing : Passing (call state).1
    · obtain ⟨e, failed, again⟩ := passing
      have closed : (closing attempt (call state).1 : List (Event δ)) = [.gaveUp attempt e] := by
        rw [failed]
        exact if_pos again
      rw [tryFrom_zero_of_passing (Prod.ext failed rfl) again, closed]
      rfl
    · rw [tryFrom_of_not_passing passing]
      rfl
  | succ left ih =>
    by_cases passing : Passing (call state).1
    · obtain ⟨e, failed, again⟩ := passing
      have called : call state = (.error e, (call state).2) := Prod.ext failed rfl
      have rest := ih (attempt + 1) (p.nextWait w) (call state).2
      unfold tryFrom
      rw [called]
      simp only [again, delays_cons]
      exact rest
    · rw [tryFrom_of_not_passing passing]
      rfl

end

end Docwright.Retry
