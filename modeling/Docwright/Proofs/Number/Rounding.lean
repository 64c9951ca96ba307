import Mathlib

/-!
How doubles are rounded. A magnitude is held in one form only (`Canonical`), and so magnitudes
compare as their exponents and mantissas do (`compare_magnitude`). Rounding never passes a magnitude
that can be held: what is below one before it is rounded is not above it then (`rounded_of_round`).
-/

namespace Docwright.Double

open Float.Model Float.Model.UnpackedFloat

def magnitude (m : Nat) (e : Int) : ℚ :=
  m * 2 ^ e

/-- The form in which a magnitude above zero is held: with as many bits as there is room for, and
fewer only at the least exponent. Exponents that are too great for a double are allowed. -/
structure Canonical (m : Nat) (e : Int) : Prop where
  positive : 0 < m
  short : m < 2 ^ 53
  least : -1074 ≤ e
  full : 2 ^ 52 ≤ m ∨ e = -1074

/-- A magnitude that can be held. -/
inductive Grid : ℚ → Prop where
  | zero : Grid 0
  | canonical {m : Nat} {e : Int} (h : Canonical m e) : Grid (magnitude m e)

/-- What a value is rounded to. -/
structure Rounded (v r : ℚ) : Prop where
  grid : Grid r
  most : ∀ c, Grid c → v ≤ c → r ≤ c
  least : ∀ c, Grid c → c ≤ v → c ≤ r

theorem Rounded.eq_of_grid {v r : ℚ} (h : Rounded v r) (held : Grid v) : r = v :=
  le_antisymm (h.most v held le_rfl) (h.least v held le_rfl)

theorem Rounded.of_grid {v : ℚ} (held : Grid v) : Rounded v v :=
  ⟨held, fun _ _ h => h, fun _ _ h => h⟩

/-! ## Magnitudes -/

theorem two_zpow_pos (e : Int) : (0 : ℚ) < 2 ^ e :=
  zpow_pos two_pos e

theorem magnitude_pos {m : Nat} (positive : 0 < m) (e : Int) : 0 < magnitude m e :=
  mul_pos (Nat.cast_pos.mpr positive) (two_zpow_pos e)

theorem magnitude_shift (m k : Nat) (e : Int) : magnitude (m * 2 ^ k) e = magnitude m (e + k) := by
  rw [magnitude, magnitude, zpow_add₀ two_ne_zero, zpow_natCast]
  push_cast
  ring

theorem magnitude_le_iff {m n : Nat} (e : Int) : magnitude m e ≤ magnitude n e ↔ m ≤ n := by
  rw [magnitude, magnitude, mul_le_mul_iff_left₀ (two_zpow_pos e), Nat.cast_le]

theorem magnitude_lt_iff {m n : Nat} (e : Int) : magnitude m e < magnitude n e ↔ m < n := by
  rw [magnitude, magnitude, mul_lt_mul_iff_left₀ (two_zpow_pos e), Nat.cast_lt]

theorem magnitude_mul (m n : Nat) (e f : Int) :
    magnitude m e * magnitude n f = magnitude (m * n) (e + f) := by
  rw [magnitude, magnitude, magnitude, zpow_add₀ two_ne_zero]
  push_cast
  ring

/-- Short mantissas cannot make up for a smaller exponent. -/
theorem magnitude_lt_of_exponent_lt {m n : Nat} {e f : Int} (short : m < 2 ^ 53) (full : 2 ^ 52 ≤ n)
    (h : e < f) : magnitude m e < magnitude n f := by
  obtain ⟨k, rfl⟩ : ∃ k : Nat, f = e + (k + 1 : Nat) := ⟨(f - e - 1).toNat, by omega⟩
  rw [← magnitude_shift, magnitude_lt_iff]
  calc m < 2 ^ 53 := short
    _ = 2 ^ 52 * 2 ^ 1 := rfl
    _ ≤ n * 2 ^ (k + 1) := Nat.mul_le_mul full (Nat.pow_le_pow_right Nat.two_pos (by omega))

theorem Canonical.magnitude_lt {m n : Nat} {e f : Int} (hm : Canonical m e) (hn : Canonical n f)
    (h : e < f) : magnitude m e < magnitude n f := by
  refine magnitude_lt_of_exponent_lt hm.short (hn.full.resolve_right ?_) h
  have := hm.least
  omega

theorem compare_congr {α β : Type} [LinearOrder α] [LinearOrder β] {a b : α} {c d : β}
    (less : a < b ↔ c < d) (more : b < a ↔ d < c) : compare a b = compare c d := by
  rcases lt_trichotomy a b with h | rfl | h
  · rw [compare_lt_iff_lt.mpr h, compare_lt_iff_lt.mpr (less.mp h)]
  · have same : c = d := le_antisymm (not_lt.mp (mt more.mpr (lt_irrefl a)))
      (not_lt.mp (mt less.mpr (lt_irrefl a)))
    rw [same, compare_eq_iff_eq.mpr rfl, compare_eq_iff_eq.mpr rfl]
  · rw [compare_gt_iff_gt.mpr h, compare_gt_iff_gt.mpr (more.mp h)]

theorem compare_magnitude {m n : Nat} {e f : Int} (hm : Canonical m e) (hn : Canonical n f) :
    (compare e f).then (compare m n) = compare (magnitude m e) (magnitude n f) := by
  rcases lt_trichotomy e f with less | rfl | more
  · rw [compare_lt_iff_lt.mpr less, compare_lt_iff_lt.mpr (hm.magnitude_lt hn less)]
    rfl
  · rw [compare_eq_iff_eq.mpr rfl, Ordering.then]
    exact compare_congr (magnitude_lt_iff e).symm (magnitude_lt_iff e).symm
  · rw [compare_gt_iff_gt.mpr more, compare_gt_iff_gt.mpr (hn.magnitude_lt hm more)]
    rfl

/-! ## Shifting bits out of a mantissa -/

/-- A mantissa without its last `k` bits, which leave a trace when they are not zero. -/
def shiftOut (m k : Nat) : ExtendedMantissa :=
  ExtendedMantissa.mk m false false >>> k

theorem shiftOut_succ (m k : Nat) : shiftOut m (k + 1) = (shiftOut m k).shiftRightOne :=
  rfl

theorem shiftOut_mantissa (m k : Nat) : (shiftOut m k).mantissa = m / 2 ^ k := by
  induction k with
  | zero => exact (Nat.div_one m).symm
  | succ k ih =>
    rw [shiftOut_succ, ExtendedMantissa.shiftRightOne, ih, Nat.div_div_eq_div_mul, ← Nat.pow_succ]

theorem shiftOut_exact (n k : Nat) : shiftOut (n * 2 ^ k) k = ⟨n, false, false⟩ := by
  induction k generalizing n with
  | zero => rw [Nat.pow_zero, Nat.mul_one]; rfl
  | succ k ih =>
    have even : n * 2 ^ (k + 1) = n * 2 * 2 ^ k := by ring
    rw [shiftOut_succ, even, ih, ExtendedMantissa.shiftRightOne, Nat.mul_div_cancel _ Nat.two_pos,
      Nat.mul_mod_left]
    rfl

theorem roundedMantissa_cases (x : ExtendedMantissa) :
    x.roundedMantissa = x.mantissa ∨
      x.roundedMantissa = x.mantissa + 1 ∧ (x.roundBit = true ∨ x.stickyBit = true) := by
  obtain ⟨m, round, sticky⟩ := x
  cases round <;> cases sticky <;>
    simp [ExtendedMantissa.roundedMantissa, ExtendedMantissa.accuracy, Accuracy.roundToNearestEven]
  omega

section

variable {m n k : Nat}

/-- Rounding a mantissa does not go below a whole number of the last place that is kept. -/
theorem le_roundedMantissa (h : n * 2 ^ k ≤ m) : n ≤ (shiftOut m k).roundedMantissa := by
  have quotient : n ≤ m / 2 ^ k := (Nat.le_div_iff_mul_le (Nat.two_pow_pos k)).mpr h
  have kept := shiftOut_mantissa m k
  rcases roundedMantissa_cases (shiftOut m k) with same | ⟨more, _⟩ <;> omega

/-- Neither does it go above one. -/
theorem roundedMantissa_le (h : m ≤ n * 2 ^ k) : (shiftOut m k).roundedMantissa ≤ n := by
  rcases Nat.eq_or_lt_of_le h with rfl | less
  · rw [shiftOut_exact]
    exact Nat.le_refl n
  · have quotient : m / 2 ^ k < n := (Nat.div_lt_iff_lt_mul (Nat.two_pow_pos k)).mpr less
    have kept := shiftOut_mantissa m k
    rcases roundedMantissa_cases (shiftOut m k) with same | ⟨more, _⟩ <;> omega

end

/-! ## Rounding -/

/-- How many bits there is no room for. -/
def excess (m : Nat) (e : Int) : Nat :=
  (Format.binary64.targetExponent (totalExponent m e) - e).toNat

theorem excess_eq (m : Nat) (e : Int) : excess m e = (max (m.log2 + e - 52) (-1074) - e).toNat := by
  have least : Format.binary64.minExponent = -1074 := by decide
  have bits : (Format.binary64.mantissaBits : Int) = 53 := by decide
  rw [excess, Format.targetExponent, totalExponent, least, bits]
  congr 3
  omega

/-- A mantissa has all the bits that there is room for, or it can get them. -/
def Filled (m : Nat) (e : Int) : Prop :=
  2 ^ 52 ≤ m ∨ e ≤ -1074

section

variable {m : Nat} {e : Int}

theorem least_le_exponent (m : Nat) (e : Int) : -1074 ≤ e + excess m e := by
  rw [excess_eq]
  omega

theorem short_of_excess (positive : 0 < m) : m < 2 ^ 53 * 2 ^ excess m e := by
  rw [← Nat.pow_add, ← Nat.log2_lt positive.ne', excess_eq]
  omega

theorem full_of_excess (positive : 0 < m) (filled : Filled m e) :
    2 ^ 52 * 2 ^ excess m e ≤ m ∨ e + excess m e = -1074 := by
  have bits : 2 ^ 52 ≤ m → 52 ≤ m.log2 := (Nat.le_log2 positive.ne').mpr
  have kept : 52 + excess m e = m.log2 ∨ e + excess m e = -1074 := by
    rw [excess_eq]
    unfold Filled at filled
    omega
  refine kept.imp_left fun kept => ?_
  rw [← Nat.pow_add, kept]
  exact Nat.log2_self_le positive.ne'

theorem excess_of_short (short : m < 2 ^ 53) (least : -1074 ≤ e) : excess m e = 0 := by
  have bits : m.log2 ≤ 52 := by
    by_cases none : m = 0
    · rw [none]; decide
    · exact Nat.le_of_lt_succ ((Nat.log2_lt none).mpr short)
  rw [excess_eq]
  omega

theorem excess_of_carry (least : -1074 ≤ e) : excess (2 ^ 53) e = 1 := by
  rw [excess_eq, Nat.log2_two_pow]
  omega

end

/-- An unpacked number holds a magnitude, with a sign. -/
inductive Holds (s : Sign) : UnpackedFloat → ℚ → Prop where
  | zero : Holds s (.zero s) 0
  | canonical {m : Nat} {e : Int} (h : Canonical m e) :
    Holds s (.finite s m e h.positive) (magnitude m e)

theorem Holds.grid {s : Sign} {u : UnpackedFloat} {r : ℚ} (h : Holds s u r) : Grid r := by
  cases h with
  | zero => exact .zero
  | canonical h => exact .canonical h

/-- What is left to do once a mantissa has been rounded: a carry may have made it one bit longer. -/
def settled (s : Sign) (r : Nat) (e : Int) : UnpackedFloat :=
  let m := (shiftOut r (excess r e)).mantissa
  if h : m = 0 then .zero s else .finite s m (e + excess r e) (Nat.pos_of_ne_zero h)

theorem roundWithAccuracy_exact (s : Sign) (m : Nat) (e : Int) :
    roundWithAccuracy Format.binary64 s m e .exact =
      settled s (shiftOut m (excess m e)).roundedMantissa (e + excess m e) :=
  rfl

theorem holds_settled (s : Sign) {r : Nat} {e : Int} (most : r ≤ 2 ^ 53) (least : -1074 ≤ e)
    (full : 2 ^ 52 ≤ r ∨ e = -1074) : Holds s (settled s r e) (magnitude r e) := by
  rcases Nat.lt_or_eq_of_le most with short | rfl
  · have same : excess r e = 0 := excess_of_short short least
    simp only [settled, shiftOut_mantissa, same, Nat.pow_zero, Nat.div_one, Nat.cast_zero, add_zero]
    rcases Nat.eq_zero_or_pos r with rfl | positive
    · rw [dif_pos rfl, magnitude, Nat.cast_zero, zero_mul]
      exact .zero
    · rw [dif_neg positive.ne']
      exact .canonical ⟨positive, short, least, full⟩
  · have one : excess (2 ^ 53) e = 1 := excess_of_carry least
    have half : 2 ^ 53 / 2 ^ 1 = 2 ^ 52 := rfl
    have whole : magnitude (2 ^ 53) e = magnitude (2 ^ 52) (e + 1) := magnitude_shift (2 ^ 52) 1 e
    simp only [settled, shiftOut_mantissa, one, half, whole, Nat.cast_one]
    rw [dif_neg (by decide)]
    exact .canonical ⟨by decide, by decide, by omega, .inl (Nat.le_refl _)⟩

theorem Grid.nonneg {c : ℚ} (h : Grid c) : 0 ≤ c := by
  cases h with
  | zero => exact le_rfl
  | canonical h => exact (magnitude_pos h.positive _).le

/-- A magnitude that can be held is a whole number of the places at `t`, or has fewer places. -/
theorem Grid.whole_or_small {c : ℚ} (h : Grid c) (t : Int) :
    (∃ n, c = magnitude n t) ∨ -1074 < t ∧ c < magnitude (2 ^ 52) t := by
  cases h with
  | zero => exact .inl ⟨0, by rw [magnitude, Nat.cast_zero, zero_mul]⟩
  | @canonical m e h =>
    rcases lt_or_ge e t with less | enough
    · exact .inr ⟨lt_of_le_of_lt h.least less, magnitude_lt_of_exponent_lt h.short (Nat.le_refl _) less⟩
    · obtain ⟨k, rfl⟩ := Int.le.dest enough
      exact .inl ⟨m * 2 ^ k, (magnitude_shift m k t).symm⟩

/-- Rounding keeps to the magnitudes that can be held: none of them lies between a value and what it
is rounded to. -/
theorem rounded_of_round (s : Sign) {m : Nat} {e : Int} (positive : 0 < m) (filled : Filled m e) :
    ∃ r, Holds s (roundWithAccuracy Format.binary64 s m e .exact) r ∧ Rounded (magnitude m e) r := by
  have least := least_le_exponent m e
  have short := short_of_excess (e := e) positive
  have full := full_of_excess positive filled
  rw [roundWithAccuracy_exact]
  generalize excess m e = k at *
  have holds : Holds s (settled s (shiftOut m k).roundedMantissa (e + k))
      (magnitude (shiftOut m k).roundedMantissa (e + k)) :=
    holds_settled s (roundedMantissa_le short.le) least (full.imp_left le_roundedMantissa)
  -- seen from the last place that is kept, what can be held is whole, or too small to matter
  refine ⟨_, holds, holds.grid, fun c hc above => ?_, fun c hc below => ?_⟩
  · rcases hc.whole_or_small (e + k) with ⟨n, rfl⟩ | ⟨higher, small⟩
    · rw [← magnitude_shift, magnitude_le_iff] at above
      exact (magnitude_le_iff _).mpr (roundedMantissa_le above)
    · have enough := full.resolve_right (by omega)
      rw [← magnitude_le_iff e, magnitude_shift] at enough
      exact absurd (enough.trans above) (not_le.mpr small)
  · rcases hc.whole_or_small (e + k) with ⟨n, rfl⟩ | ⟨higher, small⟩
    · rw [← magnitude_shift, magnitude_le_iff] at below
      exact (magnitude_le_iff _).mpr (le_roundedMantissa below)
    · have enough := full.resolve_right (by omega)
      exact small.le.trans ((magnitude_le_iff _).mpr (le_roundedMantissa enough))

end Docwright.Double
