import Docwright.Proofs.Number.Arithmetic
import Docwright.Proofs.Retry.Delays

namespace Docwright.Retry

open Number (Exact value?_zero)

/-- What a delay is shortened by. -/
def factor (u : Number) : Number :=
  Delay.add Delay.half (Delay.mul Delay.half u)

/-- A delay is shortened to no less than one half of it, and to no more than all of it. -/
structure Fair (u : Number) : Prop where
  half : Number.le (.float 0.5) (factor u) = true
  whole : Number.le (factor u) 1 = true

theorem shortened_eq (b u : Number) :
    shortened b u = if Number.le b (.float 0.0) then .float 0.0 else b * factor u :=
  rfl

theorem factor_eq (u : Number) : ∃ f, factor u = .float f := by
  cases u <;> exact ⟨_, rfl⟩

theorem value?_half : (Number.float 0.5).value? = some (1 / 2) := by
  rw [Number.value?_of_parts (b := ⟨2 ^ 52, -53, true⟩) rfl, Double.magnitude]
  norm_num

theorem value?_whole : Number.value? 1 = some 1 :=
  congrArg some Int.cast_one

theorem Fair.value? {u : Number} (h : Fair u) : ∃ f b, factor u = .float f ∧
    (Number.float f).value? = some b ∧ 0 < b ∧ b ≤ 1 := by
  obtain ⟨f, shape⟩ := factor_eq u
  obtain ⟨half, whole⟩ := h
  rw [shape] at half whole
  obtain ⟨b, held⟩ := Number.finite_of_between value?_half value?_whole half whole
  rw [Number.le_iff value?_half held] at half
  rw [Number.le_iff held value?_whole] at whole
  exact ⟨f, b, shape, held, by linarith, whole⟩

section

variable {most b u : Number} {c : ℚ} (held : most.value? = some c)
  (within : Number.lt most b = false) (fair : Fair u)
  (waits : Number.lt (.float 0.0) (shortened b u) = true)

include held within waits

/-- A backoff that has a delay above zero is itself above zero, and it is a number. -/
theorem value?_of_waits : ∃ a, b.value? = some a ∧ 0 < a ∧ a ≤ c := by
  rw [shortened_eq] at waits
  split at waits
  · rw [Number.lt_iff value?_zero value?_zero] at waits
    exact absurd waits (lt_irrefl 0)
  · next above =>
    cases hb : b.value? with
    | some a =>
      rw [Number.le_iff hb value?_zero] at above
      exact ⟨a, rfl, not_le.mp above, (Number.lt_eq_false_iff held hb).mp within⟩
    | none =>
      exfalso
      obtain ⟨g, rfl, nan | ⟨s, infinite⟩⟩ := Number.not_finite hb
      · obtain ⟨f, shape⟩ := factor_eq u
        have product : Number.float g * factor u = .float (g * f) := by rw [shape, Number.mul_float]; rfl
        rw [product, Number.lt, (Number.order?_nan (Double.mul_nan nan f) _).1] at waits
        cases waits
      · rw [Number.lt, (Number.order?_infinity infinite held).1] at within
        rw [Number.le, (Number.order?_infinity infinite value?_zero).2] at above
        cases s
        · exact above rfl
        · cases within

include fair

theorem shortened_le (double : Double.IsDouble c) : Number.le (shortened b u) most = true := by
  obtain ⟨a, hb, positive, less⟩ := value?_of_waits held within waits
  obtain ⟨f, v, shape, hf, some, part⟩ := fair.value?
  have above : ¬Number.le b (.float 0.0) = true := by
    rw [Number.le_iff hb value?_zero]
    exact not_le.mpr positive
  obtain ⟨r, product, below⟩ := Number.mul_le hb positive double less hf some part
  rw [shortened_eq, if_neg above, shape, Number.le_iff product held]
  exact below

end

namespace Policy

variable {p : Policy Number}

/-- Every backoff but the first one has been compared with the bound. -/
theorem not_above_bound {c : ℚ} (held : p.maxBackoff.value? = some c) (w : Wait Number) (k : Nat) :
    Number.lt p.maxBackoff (p.nextWait^[k + 1] w).1 = false := by
  have same : Number.lt p.maxBackoff p.maxBackoff = false := (Number.lt_eq_false_iff held held).mpr le_rfl
  rw [Function.iterate_succ_apply']
  change Number.lt p.maxBackoff (if Number.lt p.maxBackoff _ then _ else _) = false
  split
  · exact same
  · next above => exact Bool.not_eq_true _ ▸ above

/-- No delay that is slept is above the bound. -/
def BoundsDelays (p : Policy Number) : Prop :=
  ∀ (α σ : Type) (draw : Nat → Number) (call : σ → Except Failure α × σ) (draws : Nat) (state : σ),
    (∀ n, Fair (draw n)) → ∀ d ∈ (run p draw call draws state).sleeps, Number.le d p.maxBackoff = true

/-- No delay that is slept is above the bound, unless it is the first one. -/
def BoundsLaterDelays (p : Policy Number) : Prop :=
  ∀ (α σ : Type) (draw : Nat → Number) (call : σ → Except Failure α × σ) (draws : Nat) (state : σ),
    (∀ n, Fair (draw n)) → ∀ d ∈ (run p draw call draws state).delays.tail,
      Number.lt (.float 0.0) d = true → Number.le d p.maxBackoff = true

section

variable {c : ℚ} (held : p.maxBackoff.value? = some c) (double : Double.IsDouble c)

include held double

theorem boundsLaterDelays : p.BoundsLaterDelays := by
  intro α σ draw call draws state fair d hd waits
  obtain ⟨n, tried⟩ := tried_run p draw call draws state
  rw [tried.delays_eq] at hd
  cases n with
  | zero => cases hd
  | succ n =>
    rw [List.range_succ_eq_map, List.map_cons, List.tail_cons, List.map_map] at hd
    obtain ⟨k, _, rfl⟩ := List.mem_map.mp hd
    exact shortened_le held (not_above_bound held _ k) (fair _) waits double

theorem boundsDelays_of_le (initial : Number.lt p.maxBackoff p.initialBackoff = false) :
    p.BoundsDelays := by
  intro α σ draw call draws state fair d hd
  obtain ⟨n, tried⟩ := tried_run p draw call draws state
  rw [tried.sleeps_eq] at hd
  obtain ⟨hd, waits⟩ := List.mem_filter.mp hd
  rw [tried.delays_eq] at hd
  obtain ⟨k, _, rfl⟩ := List.mem_map.mp hd
  refine shortened_le held ?_ (fair _) waits double
  cases k with
  | zero => exact initial
  | succ k => exact not_above_bound held _ k

end

theorem boundsDelays_of_single (single : p.maxAttempts = 1) : p.BoundsDelays := by
  intro α σ draw call draws state _ d hd
  obtain ⟨n, tried⟩ := tried_run p draw call draws state
  have few := tried.allowed
  have none : n = 0 := by omega
  rw [tried.sleeps_eq, tried.delays_eq, none] at hd
  cases hd

end Policy

/-- A call that goes on failing in a way that may pass. -/
def failing (_ : Unit) : Except Failure Unit × Unit :=
  (.error (unavailable 503), ())

theorem passing_failing : Passing (failing ()).1 :=
  ⟨unavailable 503, rfl, rfl⟩

/-- A draw that leaves a delay as it is. -/
def wholeDraw (_ : Nat) : Number :=
  .float 1.0

theorem factor_wholeDraw (n : Nat) : factor (wholeDraw n) = .float Double.one := by
  have whole : (0.5 + 0.5 * 1.0 : Float) = Double.one := by decide
  exact congrArg Number.float whole

theorem fair_wholeDraw (n : Nat) : Fair (wholeDraw n) where
  half := by rw [factor_wholeDraw, Number.le_iff value?_half Double.value?_one]; norm_num
  whole := by rw [factor_wholeDraw, Number.le_iff Double.value?_one value?_whole]

/-- The first delay may be all of the first backoff. -/
theorem initial_le_of_boundsDelays {p : Policy Number} (bounds : p.BoundsDelays)
    (several : 1 < p.maxAttempts) {a c : ℚ} (held : p.initialBackoff.value? = some a)
    (double : Double.IsDouble a) (most : p.maxBackoff.value? = some c)
    (double' : Double.IsDouble c) : a ≤ c := by
  by_contra beyond
  have positive : 0 < a := lt_of_le_of_lt double'.grid.nonneg (not_le.mp beyond)
  obtain ⟨n, tried⟩ := tried_run p wholeDraw failing 0 ()
  have retried : 0 < n := by
    have := tried.last.resolve_right (not_not.mpr passing_failing)
    omega
  have first : p.delay wholeDraw (p.initialBackoff, 0) 0 = p.initialBackoff * .float Double.one := by
    have above : ¬Number.le p.initialBackoff (.float 0.0) = true := by
      rw [Number.le_iff held value?_zero]
      exact not_le.mpr positive
    rw [Policy.delay, Function.iterate_zero, id_eq, shortened_eq, if_neg above, factor_wholeDraw]
  have whole := Number.mul_one_of_exact held positive double Double.value?_one
  rw [← first] at whole
  have slept : p.delay wholeDraw (p.initialBackoff, 0) 0 ∈ (run p wholeDraw failing 0 ()).sleeps := by
    rw [tried.sleeps_eq, tried.delays_eq]
    refine List.mem_filter.mpr ⟨List.mem_map_of_mem (List.mem_range.mpr retried), ?_⟩
    exact (Number.lt_iff value?_zero whole).mpr positive
  have bounded := bounds _ _ wholeDraw failing 0 () fair_wholeDraw _ slept
  rw [Number.le_iff whole most] at bounded
  exact beyond bounded

/-- The bound of a policy bounds every delay but the first one, and that one as well exactly if there
is none or if the first backoff is not above the bound. -/
theorem bounds_delays_iff {p : Policy Number} (accepted : p.check = .ok p) (initial : Exact p.initialBackoff)
    (most : Exact p.maxBackoff) : p.BoundsLaterDelays ∧
    (p.BoundsDelays ↔ p.maxAttempts = 1 ∨ Number.le p.initialBackoff p.maxBackoff = true) := by
  obtain ⟨attempts, notBelow, notBelow', _⟩ := p.check_iff.mp accepted
  obtain ⟨a, x, first, held⟩ := initial
  obtain ⟨c, y, bound, held'⟩ := most
  have double := Double.isDouble_of_value held ((Number.lt_eq_false_iff first value?_zero).mp notBelow)
  have double' := Double.isDouble_of_value held' ((Number.lt_eq_false_iff bound value?_zero).mp notBelow')
  rw [Number.le_iff first bound]
  refine ⟨p.boundsLaterDelays bound double', fun bounds => ?_, fun condition => ?_⟩
  · rcases eq_or_lt_of_le attempts with single | several
    · exact .inl single.symm
    · exact .inr (initial_le_of_boundsDelays bounds several first double bound double')
  · rcases condition with single | within
    · exact p.boundsDelays_of_single single
    · exact p.boundsDelays_of_le bound double' ((Number.lt_eq_false_iff bound first).mpr within)

theorem standard_bounds_delays : Policy.standard.check = .ok Policy.standard ∧
    Policy.standard.BoundsDelays := by
  have accepted : Policy.standard.check = .ok Policy.standard := rfl
  have first : (Number.float 1.0).value? = some 1 := by
    rw [Number.value?_of_parts (b := ⟨2 ^ 52, -52, true⟩) rfl, Double.magnitude]
    norm_num
  have most : (Number.float 30.0).value? = some 30 := by
    rw [Number.value?_of_parts (b := ⟨30 * 2 ^ 48, -48, false⟩) rfl, Double.magnitude]
    norm_num
  have within : Number.le (.float 1.0) (.float 30.0) = true := by
    rw [Number.le_iff first most]
    norm_num
  exact ⟨accepted, (bounds_delays_iff accepted (Number.exact_float first)
    (Number.exact_float most)).2.mpr (.inr within)⟩

/-- Its first backoff is above its bound. -/
def hasty : Policy Number where
  maxAttempts := 2
  initialBackoff := .float 60.0
  maxBackoff := .float 30.0
  multiplier := .float 2.0

theorem hasty_delay_beyond_bound : hasty.check = .ok hasty ∧ (∀ n, Fair (wholeDraw n)) ∧
    (run hasty wholeDraw failing 0 ()).sleeps = [.float 60.0] ∧
    Number.le (.float 60.0) hasty.maxBackoff = false :=
  ⟨rfl, fair_wholeDraw, rfl, rfl⟩

end Docwright.Retry
