import Docwright.Proofs.Retry.Delays
import Mathlib

namespace Docwright.Retry

/-- Delays as fractions, without any rounding. -/
instance : Delay ℚ where
  zero := 0
  half := 1 / 2
  one := 1
  add := (· + ·)
  mul := (· * ·)
  lt a b := decide (a < b)
  le a b := decide (a ≤ b)

theorem takesDraw_iff (d : ℚ) : takesDraw d = true ↔ 0 < d := by
  change (!decide (d ≤ 0)) = true ↔ 0 < d
  simp

theorem delayAfter_eq_min (current most factor : ℚ) :
    delayAfter current most factor = min (current * factor) most := by
  change (if decide (most < current * factor) = true then most else current * factor) = _
  by_cases beyond : most < current * factor
  · rw [if_pos (decide_eq_true beyond), min_eq_right beyond.le]
  · rw [if_neg (by simpa using beyond), min_eq_left (not_lt.mp beyond)]

theorem shortened_eq_mul {d : ℚ} (nonneg : 0 ≤ d) (u : ℚ) : shortened d u = d * (1 / 2 + u / 2) := by
  change (if decide (d ≤ 0) = true then 0 else d * (1 / 2 + 1 / 2 * u)) = _
  by_cases none : d ≤ 0
  · rw [if_pos (decide_eq_true none), le_antisymm none nonneg, zero_mul]
  · rw [if_neg (by simpa using none)]
    ring

namespace Policy

variable (p : Policy ℚ)

/-- What is waited before retry `i` at most. The first retry has number zero. -/
def backoff : Nat → ℚ
  | 0 => p.initialBackoff
  | i + 1 => min (p.initialBackoff * p.multiplier ^ (i + 1)) p.maxBackoff

/-- The values that a policy may have. -/
structure InRange : Prop where
  attempts : 1 ≤ p.maxAttempts
  initial : 0 ≤ p.initialBackoff
  most : 0 ≤ p.maxBackoff
  factor : 1 ≤ p.multiplier

variable {p}

theorem inRange_of_check (accepted : p.check = .ok p) : p.InRange := by
  obtain ⟨attempts, initial, most, factor⟩ := p.check_iff.mp accepted
  exact ⟨attempts, not_lt.mp (of_decide_eq_false initial), not_lt.mp (of_decide_eq_false most),
    not_lt.mp (of_decide_eq_false factor)⟩

namespace InRange

variable (h : p.InRange)

include h

theorem backoff_nonneg (i : Nat) : 0 ≤ p.backoff i := by
  cases i with
  | zero => exact h.initial
  | succ i => exact le_min (mul_nonneg h.initial (pow_nonneg (by linarith [h.factor]) _)) h.most

theorem delayAfter_backoff (i : Nat) :
    delayAfter (p.backoff i) p.maxBackoff p.multiplier = p.backoff (i + 1) := by
  rw [delayAfter_eq_min]
  cases i with
  | zero => rw [backoff, backoff, zero_add, pow_one]
  | succ i =>
    have grown : p.maxBackoff ≤ p.maxBackoff * p.multiplier := le_mul_of_one_le_right h.most h.factor
    rw [backoff, backoff, min_mul_of_nonneg _ _ (by linarith [h.factor]), min_assoc,
      min_eq_right grown, mul_assoc, ← pow_succ]

/-- From the second one on, backoffs do not shrink. -/
theorem backoff_le {i j : Nat} (second : 1 ≤ i) (later : i ≤ j) : p.backoff i ≤ p.backoff j := by
  obtain ⟨i, rfl⟩ := Nat.exists_eq_add_of_le' second
  obtain ⟨j, rfl⟩ := Nat.exists_eq_add_of_le' (Nat.le_trans second later)
  exact min_le_min_right _ (mul_le_mul_of_nonneg_left (pow_le_pow_right₀ h.factor later) h.initial)

/-- In front of a backoff that is not zero there is none that is zero. -/
theorem backoff_ne_zero {i k : Nat} (last : p.backoff k ≠ 0) (earlier : i ≤ k) : p.backoff i ≠ 0 := by
  cases k with
  | zero => rwa [Nat.le_zero.mp earlier]
  | succ k =>
    have above : 0 < p.backoff (k + 1) := lt_of_le_of_ne (h.backoff_nonneg _) last.symm
    obtain ⟨product, most⟩ := lt_min_iff.mp above
    have initial : 0 < p.initialBackoff :=
      lt_of_le_of_ne h.initial fun none => by simp [← none] at product
    cases i with
    | zero => exact initial.ne'
    | succ i =>
      have factor : 0 < p.multiplier := by linarith [h.factor]
      exact (lt_min (mul_pos initial (pow_pos factor _)) most).ne'

end InRange

/-- The draws that `k` retries take. -/
def drawsBefore (p : Policy ℚ) (k : Nat) : Nat :=
  (List.range k).countP fun i => decide (p.backoff i ≠ 0)

theorem InRange.drawsBefore_eq (h : p.InRange) {k : Nat} (last : p.backoff k ≠ 0) :
    p.drawsBefore k = k := by
  have all : p.drawsBefore k = (List.range k).length := by
    refine List.countP_eq_length.mpr fun i hi => decide_eq_true ?_
    exact h.backoff_ne_zero last (Nat.le_of_lt (List.mem_range.mp hi))
  rw [all, List.length_range]

theorem InRange.nextWait_iterate (h : p.InRange) (draws k : Nat) :
    p.nextWait^[k] (p.initialBackoff, draws) = (p.backoff k, draws + p.drawsBefore k) := by
  induction k with
  | zero => rfl
  | succ k ih =>
    have taken : p.drawsBefore (k + 1) = p.drawsBefore k + if takesDraw (p.backoff k) then 1 else 0 := by
      have positive : takesDraw (p.backoff k) = decide (p.backoff k ≠ 0) := by
        rw [Bool.eq_iff_iff, takesDraw_iff, decide_eq_true_eq]
        exact (h.backoff_nonneg k).lt_iff_ne'
      rw [drawsBefore, List.range_succ, List.countP_append, List.countP_singleton, positive]
      rfl
    rw [Function.iterate_succ_apply', ih, nextWait, h.delayAfter_backoff, taken]
    split <;> rfl

/-- Each delay is its backoff, shortened by the next draw. -/
theorem InRange.delay_eq (h : p.InRange) (draw : Nat → ℚ) (draws k : Nat) :
    p.delay draw (p.initialBackoff, draws) k = p.backoff k * (1 / 2 + draw (draws + k) / 2) := by
  rw [delay, h.nextWait_iterate, shortened_eq_mul (h.backoff_nonneg k)]
  by_cases none : p.backoff k = 0
  · rw [none, zero_mul, zero_mul]
  · rw [h.drawsBefore_eq none]

end Policy

/-- What a run keeps to when it starts with the draws behind `draws`. -/
structure Scheduled {α σ : Type} (p : Policy ℚ) (draw : Nat → ℚ) (call : σ → Except Failure α × σ)
    (draws : Nat) (state : σ) (r : Run ℚ α σ) : Prop where
  /-- Passing failures are followed by as many retries as the policy allows. -/
  retries : ∀ k : Nat, (k : Int) < p.maxAttempts → (∀ i < k, Passing (outcome call state i)) →
    k ≤ r.delays.length
  tries : r.tries = r.delays.length + 1
  delays : r.delays =
    (List.range r.delays.length).map fun i => p.backoff i * (1 / 2 + draw (draws + i) / 2)
  numbers : (r.events.filterMap Event.retry?).map (·.1) = List.range' 1 r.delays.length
  sleeps : r.sleeps = r.delays.filter (· ≠ 0)
  draws : r.draws = draws + p.drawsBefore r.delays.length

theorem shortened_bounds {d u : ℚ} (nonneg : 0 ≤ d) (unit : 0 ≤ u ∧ u ≤ 1) :
    d / 2 ≤ d * (1 / 2 + u / 2) ∧ d * (1 / 2 + u / 2) ≤ d := by
  constructor
  · calc d / 2 = d * (1 / 2) := by ring
      _ ≤ d * (1 / 2 + u / 2) := mul_le_mul_of_nonneg_left (by linarith [unit.1]) nonneg
  · calc d * (1 / 2 + u / 2) ≤ d * 1 := mul_le_mul_of_nonneg_left (by linarith [unit.2]) nonneg
      _ = d := mul_one d

section

variable {α σ : Type} {p : Policy ℚ} {draw : Nat → ℚ} (unit : ∀ n, 0 ≤ draw n ∧ draw n ≤ 1)

include unit

theorem scheduled_run (h : p.InRange) (call : σ → Except Failure α × σ) (draws : Nat) (state : σ) :
    Scheduled p draw call draws state (run p draw call draws state) := by
  obtain ⟨n, tried⟩ := tried_run p draw call draws state
  have delays : (run p draw call draws state).delays =
      (List.range n).map fun i => p.backoff i * (1 / 2 + draw (draws + i) / 2) := by
    rw [tried.delays_eq]
    exact List.map_congr_left fun i _ => h.delay_eq draw draws i
  have length : (run p draw call draws state).delays.length = n := by
    rw [delays, List.length_map, List.length_range]
  exact {
    retries := by
      intro k few passing
      rw [length]
      rcases tried.last with all | settled
      · omega
      · by_contra early
        exact settled (passing n (by omega))
    tries := by rw [tried.tries_eq, length]
    delays := by rw [length, delays]
    numbers := by rw [length, tried.numbers_eq]
    sleeps := by
      rw [tried.sleeps_eq]
      refine List.filter_congr fun d hd => ?_
      rw [delays] at hd
      obtain ⟨i, _, rfl⟩ := List.mem_map.mp hd
      have half := (shortened_bounds (h.backoff_nonneg i) (unit (draws + i))).1
      have nonneg : 0 ≤ p.backoff i * (1 / 2 + draw (draws + i) / 2) := by
        linarith [h.backoff_nonneg i]
      exact decide_eq_decide.mpr nonneg.lt_iff_ne'
    draws := by
      rw [run, draws_tryFrom _ _ (p.initialBackoff, draws) state]
      exact congrArg Prod.snd (h.nextWait_iterate draws _) }

/-- In exact arithmetic, the delays of a run follow the schedule of its policy: the first backoff, and
then its multiples up to the bound, each shortened by a draw of its own to no less than one half.
The delays that are not zero are slept, and only backoffs that are not zero take a draw. -/
theorem delays_follow_schedule (accepted : p.check = .ok p) (call : σ → Except Failure α × σ)
    (draws : Nat) (state : σ) :
    Scheduled p draw call draws state (run p draw call draws state) ∧
    (∀ i n, p.backoff i / 2 ≤ p.backoff i * (1 / 2 + draw n / 2) ∧
      p.backoff i * (1 / 2 + draw n / 2) ≤ p.backoff i) ∧
    ∀ i j, 1 ≤ i → i ≤ j → p.backoff i ≤ p.backoff j := by
  have inRange := Policy.inRange_of_check accepted
  exact ⟨scheduled_run unit inRange call draws state,
    fun i n => shortened_bounds (inRange.backoff_nonneg i) (unit n), fun i j => inRange.backoff_le⟩

end

def patient : Policy ℚ where
  maxAttempts := 4
  initialBackoff := 1 / 2
  maxBackoff := 3
  multiplier := 2

theorem patient_delays_follow_schedule : patient.check = .ok patient ∧
    (run patient (fun _ => 1 / 2) (flaky.function 21) 0 0).delays = [3 / 8, 3 / 4] ∧
    Scheduled patient (fun _ => 1 / 2) (flaky.function 21) 0 0
      (run patient (fun _ => 1 / 2) (flaky.function 21) 0 0) := by
  have accepted : patient.check = .ok patient := by cbv
  have unit : ∀ _ : Nat, (0 : ℚ) ≤ 1 / 2 ∧ (1 / 2 : ℚ) ≤ 1 := fun _ => by norm_num
  exact ⟨accepted, by cbv,
    (delays_follow_schedule unit accepted (flaky.function 21) 0 0).1⟩

end Docwright.Retry
