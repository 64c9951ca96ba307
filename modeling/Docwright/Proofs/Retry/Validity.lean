import Docwright.Proofs.Number.Infinite
import Docwright.Proofs.Retry.Ceiling

/-!
Which accepted policies are valid, when their values are any doubles. The checks refuse what is too
small, and so they pass what is not a number. Of numbers, the delays are numbers as well, unless an
infinite factor comes to grow a backoff of zero (`soundDelays_iff`).
-/

namespace Docwright.Retry

open Double
open Number (value?_zero value?_naught)

namespace Policy

/-- The values are numbers that a policy may have. -/
structure InBounds (p : Policy Number) : Prop where
  attempts : 1 ≤ p.maxAttempts
  initial : Number.le 0 p.initialBackoff = true
  most : Number.le 0 p.maxBackoff = true
  factor : Number.le 1 p.multiplier = true

/-- Every delay that a run comes to is a number that is not below zero. -/
def SoundDelays (p : Policy Number) : Prop :=
  ∀ (α σ : Type) (draw : Nat → Number) (call : σ → Except Failure α × σ) (draws : Nat) (state : σ),
    (∀ n, Fair (draw n)) → ∀ d ∈ (run p draw call draws state).delays, Number.le 0 d = true

/-- A policy whose durations and factor are doubles. -/
def ofDoubles (attempts : Int) (initial most factor : Float) : Policy Number :=
  ⟨attempts, .float initial, .float most, .float factor⟩

/-- A value of the policy is not a number. -/
def HasNan (p : Policy Number) : Prop :=
  p.initialBackoff.IsNan ∨ p.maxBackoff.IsNan ∨ p.multiplier.IsNan

/-- There are tries enough for an infinite factor to grow a backoff of zero, which is the first one
or the bound, and for a delay to be made of the product. -/
def GrowsZero (p : Policy Number) : Prop :=
  p.multiplier.IsInfinite ∧ (p.initialBackoff.isZero = true ∧ 3 ≤ p.maxAttempts ∨
    p.maxBackoff.isZero = true ∧ 4 ≤ p.maxAttempts)

end Policy

section

variable {x : Float} {u : Number} (fair : Fair u)

include fair

theorem le_shortened (h : AtLeast 0 x) : Number.le 0 (shortened (.float x) u) = true := by
  rw [shortened_eq]
  split
  · exact AtLeast.le value?_naught (.finite value?_zero le_rfl)
  · obtain ⟨f, b, shape, value, positive, _⟩ := fair.value?
    rw [shape, Number.mul_float]
    exact (h.mul value positive).le value?_naught

theorem shortened_nan (nan : x.toModel.unpack = .notANumber) :
    Number.le 0 (shortened (.float x) u) = false := by
  obtain ⟨f, b, shape, _⟩ := fair.value?
  have unordered : Number.le (.float x) (.float 0.0) = false := by
    rw [Number.le, (Number.order?_nan nan _).2]
    rfl
  rw [shortened_eq, unordered, if_neg Bool.false_ne_true, shape, Number.mul_float]
  exact not_le_of_nan (mul_nan nan f) 0

end

section

variable (most factor : Float)

/-- The backoff after another one. -/
def grown (backoff : Float) : Float :=
  if Number.lt (.float most) (.float (backoff * factor)) then most else backoff * factor

theorem delayAfter_float (backoff : Float) :
    delayAfter (.float backoff) (.float most) (.float factor) =
      Number.float (grown most factor backoff) :=
  (apply_ite Number.float _ _ _).symm

theorem nextWait_iterate (attempts : Int) (initial : Float) (draws k : Nat) :
    ((Policy.ofDoubles attempts initial most factor).nextWait^[k] (.float initial, draws)).1 =
      .float ((grown most factor)^[k] initial) := by
  induction k with
  | zero => rfl
  | succ k ih =>
    rw [Function.iterate_succ_apply', Function.iterate_succ_apply', Policy.nextWait, ih]
    exact delayAfter_float most factor _

variable {most factor} {g : Float}

theorem grown_atLeast {b : ℚ} (value : (Number.float factor).value? = some b) (positive : 0 < b)
    (bound : AtLeast 0 most) (h : AtLeast 0 g) : AtLeast 0 (grown most factor g) := by
  unfold grown
  split
  · exact bound
  · exact h.mul value positive

theorem iterate_atLeast {b : ℚ} (value : (Number.float factor).value? = some b) (positive : 0 < b)
    (bound : AtLeast 0 most) (first : AtLeast 0 g) (k : Nat) : AtLeast 0 ((grown most factor)^[k] g) := by
  induction k with
  | zero => exact first
  | succ k ih =>
    rw [Function.iterate_succ_apply']
    exact grown_atLeast value positive bound ih

section

variable (infinite : factor.toModel.unpack = .infinity .positive)

include infinite

theorem grown_above (bound : Above most) (h : Above g) : Above (grown most factor g) := by
  unfold grown
  split
  · exact bound
  · exact .infinite (h.mul_infinite infinite)

theorem iterate_above (bound : Above most) (first : Above g) (k : Nat) :
    Above ((grown most factor)^[k] g) := by
  induction k with
  | zero => exact first
  | succ k ih =>
    rw [Function.iterate_succ_apply']
    exact grown_above infinite bound ih

/-- What is grown beyond all bounds is cut at the bound, if that has a value. -/
theorem grown_of_above {c : ℚ} (bound : (Number.float most).value? = some c) (h : Above g) :
    grown most factor g = most := by
  refine if_pos ?_
  rw [Number.lt, (Number.order?_infinity (h.mul_infinite infinite) bound).1]
  rfl

theorem grown_of_zero (h : (Number.float g).value? = some 0) :
    (grown most factor g).toModel.unpack = .notANumber := by
  have nan := zero_mul_infinite h infinite
  have unordered : Number.lt (.float most) (.float (g * factor)) = false := by
    rw [Number.lt, (Number.order?_nan nan _).1]
    rfl
  rw [grown, unordered, if_neg Bool.false_ne_true]
  exact nan

end

end

namespace Policy

section

variable {attempts : Int} {initial most factor : Float}

theorem soundDelays_of (h : ∀ k : Nat, k + 1 < attempts → AtLeast 0 ((grown most factor)^[k] initial)) :
    (ofDoubles attempts initial most factor).SoundDelays := by
  intro α σ draw call draws state fair d hd
  obtain ⟨n, tried⟩ := tried_run (ofDoubles attempts initial most factor) draw call draws state
  rw [tried.delays_eq] at hd
  obtain ⟨k, less, rfl⟩ := List.mem_map.mp hd
  have allowed : n ≤ (attempts - 1).toNat := tried.allowed
  have within := List.mem_range.mp less
  rw [delay, show (ofDoubles attempts initial most factor).initialBackoff = .float initial from rfl,
    nextWait_iterate]
  exact le_shortened (fair _) (h k (by omega))

theorem not_soundDelays_of {k : Nat} (tries : k + 1 < attempts)
    (nan : ((grown most factor)^[k] initial).toModel.unpack = .notANumber) :
    ¬(ofDoubles attempts initial most factor).SoundDelays := by
  intro sound
  obtain ⟨n, tried⟩ := tried_run (ofDoubles attempts initial most factor) wholeDraw failing 0 ()
  have all : n = (attempts - 1).toNat := tried.last.resolve_right (not_not.mpr passing_failing)
  have made : (ofDoubles attempts initial most factor).delay wholeDraw (.float initial, 0) k ∈
      (run (ofDoubles attempts initial most factor) wholeDraw failing 0 ()).delays := by
    rw [tried.delays_eq]
    exact List.mem_map_of_mem (List.mem_range.mpr (by omega))
  have reached := sound _ _ wholeDraw failing 0 () fair_wholeDraw _ made
  rw [delay, nextWait_iterate, shortened_nan (fair_wholeDraw _) nan] at reached
  cases reached

section

variable (infinite : factor.toModel.unpack = .infinity .positive)

include infinite

/-- The first delay is none, and the second one would be zero times infinity. -/
theorem soundDelays_iff_of_zero_first (none : (Number.float initial).value? = some 0) :
    (ofDoubles attempts initial most factor).SoundDelays ↔ attempts < 3 := by
  constructor
  · intro sound
    by_contra many
    have nan : (grown most factor initial).toModel.unpack = .notANumber := grown_of_zero infinite none
    exact not_soundDelays_of (k := 1) (by omega) nan sound
  · intro few
    apply soundDelays_of
    intro k within
    obtain rfl : k = 0 := by omega
    exact .finite none le_rfl

/-- The second backoff is cut at a bound of zero, so that it is the third delay that would be zero
times infinity. -/
theorem soundDelays_iff_of_zero_bound (above : Above initial)
    (none : (Number.float most).value? = some 0) :
    (ofDoubles attempts initial most factor).SoundDelays ↔ attempts < 4 := by
  have cut : grown most factor initial = most := grown_of_above infinite none above
  constructor
  · intro sound
    by_contra many
    have nan : (grown most factor (grown most factor initial)).toModel.unpack = .notANumber := by
      rw [cut]
      exact grown_of_zero infinite none
    exact not_soundDelays_of (k := 2) (by omega) nan sound
  · intro few
    apply soundDelays_of
    intro k within
    rcases (by omega : k = 0 ∨ k = 1) with rfl | rfl
    · exact above.atLeast
    · rw [Function.iterate_one, cut]
      exact .finite none le_rfl

end

theorem soundDelays_iff (first : AtLeast 0 initial) (bound : AtLeast 0 most)
    (growth : AtLeast 1 factor) : (ofDoubles attempts initial most factor).SoundDelays ↔
      ¬(ofDoubles attempts initial most factor).GrowsZero := by
  have grows : (ofDoubles attempts initial most factor).GrowsZero ↔
      factor.toModel.unpack = .infinity .positive ∧
        ((Number.float initial).isZero = true ∧ 3 ≤ attempts ∨
          (Number.float most).isZero = true ∧ 4 ≤ attempts) :=
    and_congr_left' (isInfinite_iff factor)
  rw [grows]
  rcases growth with ⟨value, reached⟩ | infinite
  · have finite : factor.toModel.unpack ≠ .infinity .positive := by
      intro infinite
      rw [float_value?, infinite] at value
      cases value
    have all := iterate_atLeast value (by linarith) bound first
    exact iff_of_true (soundDelays_of fun k _ => all k) fun h => finite h.1
  · rcases first.zero_or_above with none | above
    · rw [soundDelays_iff_of_zero_first infinite none]
      have zero := isZero_of_zero none
      -- four tries are three tries, so that a bound of zero adds nothing here
      simp only [infinite, zero, true_and]
      omega
    · rcases bound.zero_or_above with none | above'
      · rw [soundDelays_iff_of_zero_bound infinite above none]
        simp [infinite, above.isZero, isZero_of_zero none]
      · have all := iterate_above infinite above' above
        refine iff_of_true (soundDelays_of fun k _ => (all k).atLeast) ?_
        simp [above.isZero, above'.isZero]

/-- The checks bound what is a number, and let through what is not. Within the bounds, all delays are
numbers as well, unless a backoff of zero comes to be grown by an infinite factor. -/
theorem valid_iff (accepted : (ofDoubles attempts initial most factor).Accepted) :
    ((ofDoubles attempts initial most factor).InBounds ↔
      ¬(ofDoubles attempts initial most factor).HasNan) ∧
    ((ofDoubles attempts initial most factor).InBounds ∧
      (ofDoubles attempts initial most factor).SoundDelays ↔
      ¬(ofDoubles attempts initial most factor).HasNan ∧
        ¬(ofDoubles attempts initial most factor).GrowsZero) := by
  obtain ⟨several, notBelow, notBelow', notLess⟩ := accepted
  have first := le_iff_of_not_below value?_zero value?_naught notBelow
  have bound := le_iff_of_not_below value?_zero value?_naught notBelow'
  have growth := le_iff_of_not_below value?_whole value?_whole notLess
  have bounded : (ofDoubles attempts initial most factor).InBounds ↔
      ¬(ofDoubles attempts initial most factor).HasNan := by
    simp only [HasNan, ofDoubles, not_or, ← first, ← bound, ← growth]
    exact ⟨fun h => ⟨h.initial, h.most, h.factor⟩, fun h => ⟨several, h.1, h.2.1, h.2.2⟩⟩
  refine ⟨bounded, ?_⟩
  rw [← bounded]
  refine and_congr_right fun within => ?_
  obtain ⟨number, number', number''⟩ := by simpa only [HasNan, not_or] using bounded.mp within
  exact soundDelays_iff (.of_not_below value?_zero notBelow number)
    (.of_not_below value?_zero notBelow' number') (.of_not_below value?_whole notLess number'')

end

end Policy

end Docwright.Retry
