import Docwright.Proofs.Number.Value

/-!
Arithmetic of doubles. Products, and integers that are made doubles, are rounded as long as they are
not too great (`rounded_mul`, `rounded_ofNat`). So a number that is shortened does not come to be above
a double that it was not above before (`mul_le`), and times one it is the same (`mul_one_of_exact`).
-/

namespace Docwright.Double

open Float.Model Float.Model.UnpackedFloat

/-- What is as great as this is too great for a double. -/
def limit : ℚ :=
  magnitude (2 ^ 52) 972

/-- The value of a double that is not negative. -/
structure IsDouble (c : ℚ) : Prop where
  grid : Grid c
  small : c < limit

theorem limit_pos : 0 < limit :=
  magnitude_pos (by decide) 972

theorem canonical_limit : Canonical (2 ^ 52) 972 :=
  ⟨by decide, by decide, by decide, .inl (Nat.le_refl _)⟩

theorem Canonical.lt_limit_iff {m : Nat} {e : Int} (h : Canonical m e) : magnitude m e < limit ↔ e ≤ 971 := by
  constructor
  · intro small
    by_contra great
    have full : 2 ^ 52 ≤ m := h.full.resolve_right (by omega)
    rcases eq_or_lt_of_le (show 972 ≤ e by omega) with rfl | beyond
    · exact absurd small (not_lt.mpr ((magnitude_le_iff 972).mpr full))
    · exact absurd small (not_lt.mpr (canonical_limit.magnitude_lt h beyond).le)
  · intro small
    exact h.magnitude_lt canonical_limit (by omega)

theorem Holds.lt_limit {x : Float} {s : Sign} {r : ℚ} (h : Holds s x.toModel.unpack r) : r < limit := by
  generalize hu : x.toModel.unpack = u at h
  cases h with
  | zero => exact limit_pos
  | canonical h => exact h.lt_limit_iff.mpr (canonical_of_unpack hu).2

theorem holds_of_pos {x : Float} {a : ℚ} (h : (Number.float x).value? = some a) (positive : 0 < a) :
    Holds .positive x.toModel.unpack a := by
  obtain ⟨s, r, held, rfl⟩ := holds_of_value h
  cases s with
  | positive => exact held
  | negative => exact absurd positive (not_lt.mpr (neg_nonpos.mpr held.grid.nonneg))

theorem isDouble_of_value {x : Float} {a : ℚ} (h : (Number.float x).value? = some a) (nonneg : 0 ≤ a) :
    IsDouble a := by
  rcases eq_or_lt_of_le nonneg with rfl | positive
  · exact ⟨.zero, limit_pos⟩
  · exact ⟨(holds_of_pos h positive).grid, (holds_of_pos h positive).lt_limit⟩

/-- What is not too great is packed as it is. -/
theorem value?_pack {s : Sign} {u : UnpackedFloat} {r : ℚ} (h : Holds s u r) (small : r < limit) :
    (Number.float (.ofModel (Float.Model.pack u))).value? = some (signed s r) := by
  rw [float_value?, ← h.value?]
  cases h with
  | zero => cases s <;> rfl
  | canonical h => exact congrArg _ (parts_pack s h (h.lt_limit_iff.mp small))

theorem exists_finite {x : Float} {a : ℚ} (h : (Number.float x).value? = some a) (positive : 0 < a) :
    ∃ m e, ∃ h : Canonical m e, x.toModel.unpack = .finite .positive m e h.positive ∧
      a = magnitude m e := by
  have held := holds_of_pos h positive
  generalize x.toModel.unpack = u at held
  cases held with
  | zero => exact absurd positive (lt_irrefl 0)
  | canonical formed => exact ⟨_, _, formed, rfl, rfl⟩

theorem mul_nan {x : Float} (nan : x.toModel.unpack = .notANumber) (y : Float) :
    (x * y).toModel.unpack = .notANumber := by
  have product : UnpackedFloat.mul Format.binary64 .notANumber y.toModel.unpack = .notANumber := by
    cases y.toModel.unpack <;> rfl
  change (Float.Model.pack (UnpackedFloat.mul Format.binary64 x.toModel.unpack y.toModel.unpack)).unpack = _
  rw [nan, product]
  rfl

/-- A product of doubles above zero is rounded, and then packed, however great it is. -/
theorem exists_mul_eq {x y : Float} {a b : ℚ} (hx : (Number.float x).value? = some a)
    (hy : (Number.float y).value? = some b) (left : 0 < a) (right : 0 < b) :
    ∃ u r, x * y = .ofModel (Float.Model.pack u) ∧ Holds .positive u r ∧ Rounded (a * b) r := by
  obtain ⟨m, e, hm, unpackX, rfl⟩ := exists_finite hx left
  obtain ⟨n, f, hn, unpackY, rfl⟩ := exists_finite hy right
  have filled : Filled (m * n) (e + f) := by
    rcases hm.full with full | least
    · exact .inl (full.trans (Nat.le_mul_of_pos_right m hn.positive))
    · rcases hn.full with full | least'
      · exact .inl (full.trans (Nat.le_mul_of_pos_left n hm.positive))
      · exact .inr (by omega)
  have product : x * y = .ofModel (Float.Model.pack
      (roundWithAccuracy Format.binary64 .positive (m * n) (e + f) .exact)) := by
    change Float.ofModel (Float.Model.pack (UnpackedFloat.mul Format.binary64 x.toModel.unpack
      y.toModel.unpack)) = _
    rw [unpackX, unpackY]
    rfl
  obtain ⟨r, held, rounded⟩ := rounded_of_round .positive (Nat.mul_pos hm.positive hn.positive) filled
  rw [magnitude_mul]
  exact ⟨_, r, product, held, rounded⟩

section

variable {c : ℚ} (double : IsDouble c)

include double

theorem value?_round {m : Nat} {e : Int} (positive : 0 < m) (filled : Filled m e)
    (within : magnitude m e ≤ c) : ∃ r, (Number.float (.ofModel (Float.Model.pack
      (roundWithAccuracy Format.binary64 .positive m e .exact)))).value? = some r ∧
      Rounded (magnitude m e) r := by
  obtain ⟨r, held, rounded⟩ := rounded_of_round .positive positive filled
  have small : r < limit := lt_of_le_of_lt (rounded.most c double.grid within) double.small
  exact ⟨r, value?_pack held small, rounded⟩

/-- A product that is not too great is rounded. -/
theorem rounded_mul {x y : Float} {a b : ℚ} (hx : (Number.float x).value? = some a)
    (hy : (Number.float y).value? = some b) (left : 0 < a) (right : 0 < b) (within : a * b ≤ c) :
    ∃ r, (Number.float (x * y)).value? = some r ∧ Rounded (a * b) r := by
  obtain ⟨u, r, product, held, rounded⟩ := exists_mul_eq hx hy left right
  have small : r < limit := lt_of_le_of_lt (rounded.most c double.grid within) double.small
  exact ⟨r, product ▸ value?_pack held small, rounded⟩

end

/-- Times one, a double is the same. -/
theorem value?_mul_one {x f : Float} {a : ℚ} (hx : (Number.float x).value? = some a) (positive : 0 < a)
    (unit : (Number.float f).value? = some 1) : (Number.float (x * f)).value? = some a := by
  have double := isDouble_of_value hx positive.le
  obtain ⟨r, product, rounded⟩ := rounded_mul double hx unit positive zero_lt_one (mul_one a).le
  rw [mul_one] at rounded
  rw [product, rounded.eq_of_grid double.grid]

/-- A long integer is rounded as it is. -/
theorem ofNat_of_long {n : Nat} (long : ¬n < 2 ^ 53) : Float.ofNat n = .ofModel (Float.Model.pack
    (roundWithAccuracy Format.binary64 .positive (n * 2 ^ 53) (-53) .exact)) := by
  have positive : n ≠ 0 := by omega
  have least : ¬Int.ofNat 0 < -(2 ^ 11 + (n.log2 : Int)) := by
    have : Int.ofNat 0 = 0 := rfl
    omega
  have mantissa : n <<< Format.binary64.mantissaBits * 10 ^ (Int.ofNat 0).toNat = n * 2 ^ 53 := by
    rw [Nat.shiftLeft_eq]
    exact Nat.mul_one _
  have exponent : -(Format.binary64.mantissaBits : Int) + 0 = -53 := by decide
  change Float.ofScientific n false 0 = _
  rw [Float.ofScientific, dif_neg (fun h => long h.1)]
  simp only [Bool.false_eq_true, ↓reduceIte, Float.Model.ofScientific, UnpackedFloat.ofScientific]
  rw [dif_neg positive, if_neg (by decide), if_neg least, if_pos (by decide), UnpackedFloat.mul, mantissa,
    exponent]
  rfl

def one : Float :=
  .ofBits 0x3FF0000000000000

theorem value?_one : (Number.float one).value? = some 1 := by
  rw [Number.value?_of_parts (b := ⟨2 ^ 52, -52, true⟩) rfl, magnitude]
  norm_num

/-- A short integer is made a double by itself, and that is multiplied by one. -/
theorem ofNat_of_short {n : Nat} (short : n < 2 ^ 53) (positive : 0 < n) :
    Float.ofNat n = .ofModel (Float.Model.pack (roundWithAccuracy Format.binary64 .positive
      (n * 2 ^ (52 - n.log2)) (-((52 - n.log2 : Nat) : Int)) .exact)) * one := by
  change Float.ofScientific n false 0 = _
  rw [Float.ofScientific, dif_pos ⟨short, by decide⟩]
  simp only [Bool.false_eq_true, ↓reduceIte]
  have same : n.toUInt64.toNat = n := by
    simp
    omega
  have signless : compare (n : Int) 0 = .gt := by
    rw [Int.compare_eq_gt]
    omega
  change Float.ofModel (Float.Model.pack (UnpackedFloat.normalize Format.binary64 (n.toUInt64.toNat : Int) 0
    .positive)) * one = _
  have places : (-Format.binary64.targetExponent (totalExponent n 0)).toNat = 52 - n.log2 := by
    have least : Format.binary64.minExponent = -1074 := by decide
    have bits : (Format.binary64.mantissaBits : Int) = 53 := by decide
    rw [Format.targetExponent, totalExponent, least, bits]
    have := (Nat.log2_lt positive.ne').mpr short
    omega
  rw [same, UnpackedFloat.normalize, signless]
  simp only [UnpackedFloat.round, decreaseExponent, Int.toNat_natCast, zero_sub, places, Nat.shiftLeft_eq]

section

variable {n : Nat} (short : n < 2 ^ 53) (positive : 0 < n)

include short positive

/-- A short integer is a magnitude that can be held. -/
theorem canonical_of_short :
    Canonical (n * 2 ^ (52 - n.log2)) (-((52 - n.log2 : Nat) : Int)) where
  positive := Nat.mul_pos positive (Nat.two_pow_pos _)
  short := by
    have bits := (Nat.log2_lt positive.ne').mpr short
    calc n * 2 ^ (52 - n.log2) < 2 ^ (n.log2 + 1) * 2 ^ (52 - n.log2) :=
          Nat.mul_lt_mul_of_pos_right Nat.lt_log2_self (Nat.two_pow_pos _)
      _ = 2 ^ 53 := by rw [← Nat.pow_add]; congr 1; omega
  least := by omega
  full := by
    have bits := (Nat.log2_lt positive.ne').mpr short
    left
    calc 2 ^ 52 = 2 ^ n.log2 * 2 ^ (52 - n.log2) := by rw [← Nat.pow_add]; congr 1; omega
      _ ≤ n * 2 ^ (52 - n.log2) := Nat.mul_le_mul_right _ (Nat.log2_self_le positive.ne')

omit short positive in
theorem magnitude_short : magnitude (n * 2 ^ (52 - n.log2)) (-((52 - n.log2 : Nat) : Int)) = n := by
  rw [magnitude_shift, magnitude]
  simp

theorem isDouble_of_short : IsDouble n := by
  have canonical := canonical_of_short short positive
  rw [← magnitude_short]
  exact ⟨.canonical canonical, canonical.lt_limit_iff.mpr (by omega)⟩

theorem value?_ofNat : (Number.float (Float.ofNat n)).value? = some (n : ℚ) := by
  have canonical := canonical_of_short short positive
  have double := isDouble_of_short short positive
  obtain ⟨r, held, rounded⟩ := value?_round double canonical.positive (.inl (canonical.full.resolve_right
    (by omega))) magnitude_short.le
  rw [magnitude_short] at rounded
  rw [rounded.eq_of_grid double.grid] at held
  rw [ofNat_of_short short positive]
  exact value?_mul_one held (Nat.cast_pos.mpr positive) value?_one

end

/-- An integer that is not too great is rounded when it is made a double. -/
theorem rounded_ofNat {c : ℚ} (double : IsDouble c) {n : Nat} (positive : 0 < n) (within : (n : ℚ) ≤ c) :
    ∃ r, (Number.float (Float.ofNat n)).value? = some r ∧ Rounded (n : ℚ) r := by
  by_cases short : n < 2 ^ 53
  · exact ⟨n, value?_ofNat short positive, .of_grid (isDouble_of_short short positive).grid⟩
  · have whole : magnitude (n * 2 ^ 53) (-53) = n := by
      rw [magnitude_shift, magnitude]
      simp
    have filled : Filled (n * 2 ^ 53) (-53) := .inl (by omega)
    rw [ofNat_of_long short, ← whole]
    exact value?_round double (by omega) filled (by rwa [whole])

end Docwright.Double

namespace Docwright.Number

open Double

theorem mul_float (x : Number) (f : Float) : x * .float f = .float (x.toFloat * f) := by
  cases x <;> rfl

/-- There is a double of the same value. -/
def Exact (x : Number) : Prop :=
  ∃ a, ∃ y : Float, x.value? = some a ∧ (Number.float y).value? = some a

theorem exact_float {x : Float} {a : ℚ} (h : (Number.float x).value? = some a) : Exact (.float x) :=
  ⟨a, x, h, h⟩

theorem exact_int {n : Nat} (short : n < 2 ^ 53) : Exact (.int n) := by
  rcases Nat.eq_zero_or_pos n with rfl | positive
  · exact ⟨0, 0.0, congrArg some Int.cast_zero, value?_zero⟩
  · exact ⟨n, Float.ofNat n, congrArg some (Int.cast_natCast n), value?_ofNat short positive⟩

section

variable {x : Number} {f : Float} {a b c : ℚ} (hx : x.value? = some a) (positive : 0 < a)
  (double : IsDouble c) (within : a ≤ c)

include hx positive double within

theorem rounded_toFloat : ∃ r, (Number.float x.toFloat).value? = some r ∧ 0 < r ∧ Rounded a r := by
  cases x with
  | float f => exact ⟨a, hx, positive, (isDouble_of_value hx positive.le).grid, fun _ _ h => h, fun _ _ h => h⟩
  | int n =>
    cases hx
    obtain ⟨k, rfl⟩ := Int.eq_ofNat_of_zero_le (Int.cast_pos.mp positive).le
    rw [Int.cast_natCast] at positive within ⊢
    obtain ⟨r, held, rounded⟩ := rounded_ofNat double (Nat.cast_pos.mp positive) within
    have one : (1 : ℚ) ≤ k := Nat.one_le_cast.mpr (Nat.cast_pos.mp positive)
    have above := rounded.least 1 (isDouble_of_value value?_one zero_le_one).grid one
    exact ⟨r, held, by linarith, rounded⟩

/-- A number that is shortened does not come to be above a double that it was not above before. -/
theorem mul_le (hf : (Number.float f).value? = some b) (some : 0 < b) (part : b ≤ 1) :
    ∃ r, (x * .float f).value? = Option.some r ∧ r ≤ c := by
  obtain ⟨q, held, above, rounded⟩ := rounded_toFloat hx positive double within
  have below : q ≤ c := rounded.most c double.grid within
  have less : q * b ≤ c := (mul_le_of_le_one_right above.le part).trans below
  obtain ⟨r, multiplied, again⟩ := rounded_mul double held hf above some less
  exact ⟨r, mul_float x f ▸ multiplied, again.most c double.grid less⟩

end

/-- Times one, a number that a double holds is the same. -/
theorem mul_one_of_exact {x : Number} {a : ℚ} (hx : x.value? = some a) (positive : 0 < a)
    (double : IsDouble a) {f : Float} (one : (Number.float f).value? = some 1) :
    (x * .float f).value? = some a := by
  obtain ⟨q, held, _, rounded⟩ := rounded_toFloat hx positive double le_rfl
  rw [rounded.eq_of_grid double.grid] at held
  rw [mul_float]
  exact value?_mul_one held positive one

end Docwright.Number
