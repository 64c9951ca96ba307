import Docwright.Proofs.Number.Arithmetic

/-!
Arithmetic of doubles that are at least zero, infinite ones among them. Times something finite, such a
double stays one, however great it gets (`AtLeast.mul`). Times something infinite, it becomes infinite
(`Above.mul_infinite`), unless it is zero: then the product is not a number (`zero_mul_infinite`).
-/

namespace Docwright

open Double

namespace Number

def IsNan : Number → Prop
  | .int _ => False
  | .float x => Decimal.Parts.ofFloat x = .nan

/-- It is beyond every number that has a value. -/
def IsInfinite : Number → Prop
  | .int _ => False
  | .float x => Decimal.Parts.ofFloat x = .infinite false

theorem value?_naught : value? 0 = some 0 :=
  congrArg some Int.cast_zero

end Number

namespace Double

open Float.Model Float.Model.UnpackedFloat

theorem isNan_iff (x : Float) : Number.IsNan (.float x) ↔ x.toModel.unpack = .notANumber := by
  rw [Number.IsNan, ofFloat_eq]
  cases x.toModel.unpack <;> simp [parts]

theorem isInfinite_iff (x : Float) :
    Number.IsInfinite (.float x) ↔ x.toModel.unpack = .infinity .positive := by
  rw [Number.IsInfinite, ofFloat_eq]
  cases x.toModel.unpack with
  | infinity s => cases s <;> simp [parts, isNegative]
  | _ => simp [parts]

/-- A double that is a number and not below a value. -/
inductive AtLeast (b : ℚ) (x : Float) : Prop where
  | finite {a : ℚ} (value : (Number.float x).value? = some a) (reached : b ≤ a)
  | infinite (h : x.toModel.unpack = .infinity .positive)

/-- A double that is above zero. -/
inductive Above (x : Float) : Prop where
  | finite {a : ℚ} (value : (Number.float x).value? = some a) (positive : 0 < a)
  | infinite (h : x.toModel.unpack = .infinity .positive)

variable {x y : Float}

theorem Above.atLeast (h : Above x) : AtLeast 0 x := by
  cases h with
  | finite value positive => exact .finite value positive.le
  | infinite h => exact .infinite h

theorem AtLeast.zero_or_above (h : AtLeast 0 x) : (Number.float x).value? = some 0 ∨ Above x := by
  cases h with
  | infinite h => exact .inr (.infinite h)
  | finite value nonneg =>
    rcases eq_or_lt_of_le nonneg with rfl | positive
    · exact .inl value
    · exact .inr (.finite value positive)

theorem isZero_of_zero (h : (Number.float x).value? = some 0) :
    (Number.float x).isZero = true := by
  rw [Number.isZero, Number.eq, Number.order?_eq h Number.value?_naught, compare_eq_iff_eq.mpr rfl]
  rfl

theorem Above.isZero (h : Above x) : (Number.float x).isZero = false := by
  rw [Number.isZero, Number.eq]
  cases h with
  | finite value positive =>
    rw [Number.order?_eq value Number.value?_naught, compare_gt_iff_gt.mpr positive]
    rfl
  | infinite h =>
    rw [(Number.order?_infinity h Number.value?_naught).2]
    rfl

theorem not_le_of_nan (nan : x.toModel.unpack = .notANumber) (n : Number) :
    Number.le n (.float x) = false := by
  rw [Number.le, (Number.order?_nan nan n).1]
  rfl

section

variable {n : Number} {b : ℚ} (hn : n.value? = some b)

include hn

theorem AtLeast.le (h : AtLeast b x) : Number.le n (.float x) = true := by
  cases h with
  | finite value reached => exact (Number.le_iff hn value).mpr reached
  | infinite h =>
    rw [Number.le, (Number.order?_infinity h hn).1]
    rfl

theorem AtLeast.of_not_below (h : Number.lt (.float x) n = false)
    (number : ¬Number.IsNan (.float x)) : AtLeast b x := by
  cases hx : (Number.float x).value? with
  | some a => exact .finite hx ((Number.lt_eq_false_iff hx hn).mp h)
  | none =>
    obtain ⟨_, ⟨⟩, nan | ⟨s, infinite⟩⟩ := Number.not_finite hx
    · exact absurd ((isNan_iff x).mpr nan) number
    · rw [Number.lt, (Number.order?_infinity infinite hn).2] at h
      cases s with
      | positive => exact .infinite infinite
      | negative => cases h

/-- What is not below a value reaches it, in whatever form that is given, if it is a number. -/
theorem le_iff_of_not_below {m : Number} (hm : m.value? = some b)
    (h : Number.lt (.float x) n = false) :
    Number.le m (.float x) = true ↔ ¬Number.IsNan (.float x) := by
  constructor
  · intro reached nan
    rw [not_le_of_nan ((isNan_iff x).mp nan)] at reached
    cases reached
  · intro number
    exact (AtLeast.of_not_below hn h number).le hm

end

theorem unpack_mul {u v : UnpackedFloat} (hx : x.toModel.unpack = u) (hy : y.toModel.unpack = v) :
    (x * y).toModel.unpack =
      (Float.Model.pack (UnpackedFloat.mul Format.binary64 u v)).unpack := by
  subst hx hy
  rfl

theorem unpack_infinity : (Float.Model.pack (.infinity .positive)).unpack = .infinity .positive :=
  rfl

theorem unpack_nan : (Float.Model.pack .notANumber).unpack = .notANumber :=
  rfl

theorem unpack_of_zero (h : (Number.float x).value? = some 0) : ∃ s, x.toModel.unpack = .zero s := by
  obtain ⟨s, r, held, none⟩ := holds_of_value h
  generalize x.toModel.unpack = u at held ⊢
  cases held with
  | zero => exact ⟨s, rfl⟩
  | @canonical m e h =>
    have above := (magnitude_pos h.positive e).ne'
    cases s with
    | positive => exact absurd none.symm above
    | negative => exact absurd (neg_eq_zero.mp none.symm) above

/-- What is too great for a double is packed as infinite. -/
theorem unpack_of_great {m : Nat} {e : Int} (positive : 0 < m) (great : 971 < e) :
    (Float.Model.pack (.finite .positive m e positive)).unpack = .infinity .positive := by
  have bias : (Format.binary64.exponentBias : Int) = 1023 := by decide
  have packed : UnpackedFloat.pack Format.binary64 (.finite .positive m e positive) =
      UnpackedFloat.pack Format.binary64 (.infinity .positive) := by
    refine if_pos ?_
    change 2 ^ 11 ≤ (e + Format.binary64.exponentBias + (52 : Nat)).toNat + 1
    omega
  change UnpackedFloat.unpack Format.binary64 (UnpackedFloat.pack Format.binary64 _) = _
  rw [packed]
  rfl

theorem Holds.atLeast {u : UnpackedFloat} {r : ℚ} (h : Holds .positive u r) :
    AtLeast 0 (.ofModel (Float.Model.pack u)) := by
  -- rounding leaves the exponent unbounded: what has outgrown a double becomes infinite in packing
  by_cases small : r < limit
  · exact .finite (value?_pack h small) h.grid.nonneg
  · cases h with
    | zero => exact absurd limit_pos small
    | canonical h =>
      have great := not_le.mp (mt h.lt_limit_iff.mpr small)
      exact .infinite (unpack_of_great h.positive great)

theorem AtLeast.mul {b : ℚ} (hx : AtLeast 0 x) (hy : (Number.float y).value? = some b)
    (positive : 0 < b) : AtLeast 0 (x * y) := by
  obtain ⟨n, f, hn, unpackY, rfl⟩ := exists_finite hy positive
  cases hx with
  | infinite h => exact .infinite ((unpack_mul h unpackY).trans unpack_infinity)
  | finite value nonneg =>
    rcases eq_or_lt_of_le nonneg with rfl | above
    · obtain ⟨s, unpackX⟩ := unpack_of_zero value
      have packed := value?_pack (Holds.zero (s := s * .positive)) limit_pos
      rw [signed_zero, float_value?] at packed
      refine .finite ?_ le_rfl
      rw [float_value?, unpack_mul unpackX unpackY]
      exact packed
    · obtain ⟨u, r, product, held, _⟩ := exists_mul_eq value hy above positive
      rw [product]
      exact held.atLeast

theorem Above.mul_infinite (hx : Above x) (hy : y.toModel.unpack = .infinity .positive) :
    (x * y).toModel.unpack = .infinity .positive := by
  cases hx with
  | infinite h => exact (unpack_mul h hy).trans unpack_infinity
  | finite value positive =>
    obtain ⟨m, e, hm, unpackX, rfl⟩ := exists_finite value positive
    exact (unpack_mul unpackX hy).trans unpack_infinity

theorem zero_mul_infinite (hx : (Number.float x).value? = some 0)
    (hy : y.toModel.unpack = .infinity .positive) : (x * y).toModel.unpack = .notANumber := by
  obtain ⟨s, unpackX⟩ := unpack_of_zero hx
  exact (unpack_mul unpackX hy).trans unpack_nan

end Double

end Docwright
