import Docwright.Proofs.Number.Double
import Docwright.Proofs.Number.Fraction

/-!
The values of finite numbers. Finite numbers compare as their values do, whether they are integers or
doubles (`order?_eq`). Infinite ones are beyond all of them, and nothing compares with what is not a
number.
-/

namespace Docwright

open Double

/-- The value of what is finite. -/
def Decimal.Parts.value? : Decimal.Parts → Option ℚ
  | .finite negative b =>
    some (if negative then -magnitude b.mantissa b.exponent else magnitude b.mantissa b.exponent)
  | .nan | .infinite _ => none

theorem Decimal.Binary.fraction_div (b : Decimal.Binary) :
    (b.fraction.1 : ℚ) / b.fraction.2 = magnitude b.mantissa b.exponent := by
  unfold Decimal.Binary.fraction Decimal.powerFraction magnitude
  by_cases small : b.exponent < 0
  · have negated : b.exponent = -(b.exponent.natAbs : Int) := by omega
    have powered : (2 : ℚ) ^ b.exponent = ((2 : ℚ) ^ b.exponent.natAbs)⁻¹ := by
      rw [← zpow_natCast, ← zpow_neg, ← negated]
    simp only [small, ↓reduceIte, powered, Nat.pow_eq, Nat.cast_pow, Nat.cast_ofNat, Nat.mul_one]
    exact div_eq_mul_inv _ _
  · have same : b.exponent = (b.exponent.natAbs : Int) := by omega
    have powered : (2 : ℚ) ^ b.exponent = (2 : ℚ) ^ b.exponent.natAbs := by
      rw [← zpow_natCast, ← same]
    simp [small, powered]

namespace Number

def value? : Number → Option ℚ
  | .int n => some n
  | .float x => (Decimal.Parts.ofFloat x).value?

theorem value?_of_parts {x : Float} {b : Decimal.Binary}
    (h : Decimal.Parts.ofFloat x = .finite false b) :
    (Number.float x).value? = some (magnitude b.mantissa b.exponent) := by
  rw [value?, h]
  rfl

theorem value?_zero : (Number.float 0.0).value? = some 0 := by
  rw [value?_of_parts (b := ⟨0, -1074, false⟩) rfl, magnitude, Nat.cast_zero, zero_mul]

section

variable {x y : Number} {a b : ℚ}

theorem exists_fraction (h : x.value? = some a) : ∃ p d, x.fraction? = some (p, d) ∧ a = p / d := by
  cases x with
  | int n => exact ⟨n, 1, rfl, by cases h; simp⟩
  | float z =>
    simp only [value?] at h
    simp only [fraction?]
    cases hp : Decimal.Parts.ofFloat z with
    | nan | infinite => rw [hp] at h; cases h
    | finite negative m =>
      rw [hp] at h
      refine ⟨_, _, rfl, ?_⟩
      cases h
      cases negative <;> simp [neg_div, m.fraction_div]

theorem int_order?_of_value (n : Int) (h : x.value? = some a) :
    order? (.int n) x = some (compare (n : ℚ) a) := by
  obtain ⟨p, d, held, rfl⟩ := exists_fraction h
  have positive : (0 : ℚ) < d := Nat.cast_pos.mpr (denominator_pos held)
  rw [int_order? held]
  refine congrArg some (compare_congr ?_ ?_)
  · rw [lt_div_iff₀ positive]
    exact_mod_cast Iff.rfl
  · rw [div_lt_iff₀ positive]
    exact_mod_cast Iff.rfl

end

end Number

namespace Double

open Float.Model Float.Model.UnpackedFloat

theorem float_value? (x : Float) : (Number.float x).value? = (parts x.toModel.unpack).value? :=
  congrArg Decimal.Parts.value? (ofFloat_eq x)

def signed (s : Sign) (r : ℚ) : ℚ :=
  if isNegative s then -r else r

theorem signed_zero (s : Sign) : signed s 0 = 0 := by
  cases s <;> simp [signed, isNegative]

theorem Holds.value? {s : Sign} {u : UnpackedFloat} {r : ℚ} (h : Holds s u r) :
    (parts u).value? = some (signed s r) := by
  cases h with
  | zero => simp [parts, Decimal.Parts.value?, magnitude, signed]
  | canonical => rfl

theorem holds_of_value {x : Float} {a : ℚ} (h : (Number.float x).value? = some a) :
    ∃ s r, Holds s x.toModel.unpack r ∧ a = signed s r := by
  rw [float_value?] at h
  cases hu : x.toModel.unpack with
  | notANumber | infinity => rw [hu] at h; cases h
  | zero s =>
    rw [hu, (Holds.zero (s := s)).value?] at h
    exact ⟨s, 0, .zero, (Option.some.inj h).symm⟩
  | finite s m e positive =>
    have held := Holds.canonical (s := s) (canonical_of_unpack hu).1
    rw [hu, held.value?] at h
    exact ⟨s, _, held, (Option.some.inj h).symm⟩

/-- Unpacked numbers compare as their values do. -/
theorem Holds.compare_eq {s t : Sign} {u v : UnpackedFloat} {r q : ℚ} (hu : Holds s u r)
    (hv : Holds t v q) : UnpackedFloat.compare u v = some (compare (signed s r) (signed t q)) := by
  cases hu with
  | zero =>
    rw [signed_zero]
    cases hv with
    | zero =>
      rw [signed_zero, compare_eq_iff_eq.mpr rfl]
      rfl
    | @canonical n f hn =>
      have above := magnitude_pos hn.positive f
      cases t with
      | negative =>
        change some Ordering.gt = some (compare 0 (-magnitude n f))
        rw [compare_gt_iff_gt.mpr (neg_lt_zero.mpr above)]
      | positive =>
        change some Ordering.lt = some (compare 0 (magnitude n f))
        rw [compare_lt_iff_lt.mpr above]
  | @canonical m e hm =>
    have above := magnitude_pos hm.positive e
    cases hv with
    | zero =>
      rw [signed_zero]
      cases s with
      | negative =>
        change some Ordering.lt = some (compare (-magnitude m e) 0)
        rw [compare_lt_iff_lt.mpr (neg_lt_zero.mpr above)]
      | positive =>
        change some Ordering.gt = some (compare (magnitude m e) 0)
        rw [compare_gt_iff_gt.mpr above]
    | @canonical n f hn =>
      have above' := magnitude_pos hn.positive f
      cases s with
      | negative =>
        cases t with
        | negative =>
          change some ((compare e f).then (compare m n)).swap = some (compare (-magnitude m e) (-magnitude n f))
          rw [compare_magnitude hm hn, ← Std.OrientedCmp.eq_swap]
          exact congrArg some (compare_congr neg_lt_neg_iff.symm neg_lt_neg_iff.symm)
        | positive =>
          change some Ordering.lt = some (compare (-magnitude m e) (magnitude n f))
          rw [compare_lt_iff_lt.mpr ((neg_lt_zero.mpr above).trans above')]
      | positive =>
        cases t with
        | negative =>
          change some Ordering.gt = some (compare (magnitude m e) (-magnitude n f))
          rw [compare_gt_iff_gt.mpr ((neg_lt_zero.mpr above').trans above)]
        | positive => exact congrArg some (compare_magnitude hm hn)

end Double

namespace Number

open Double

theorem order?_floats (f g : Float) : order? (.float f) (.float g) =
    if f.toModel.unpack.compare g.toModel.unpack = some .lt then some .lt
    else if g.toModel.unpack.compare f.toModel.unpack = some .lt then some .gt
    else if f.toModel.unpack.compare g.toModel.unpack = some .eq then some .eq else none := by
  have less (f g : Float) : f < g ↔ f.toModel.unpack.compare g.toModel.unpack = some .lt := by
    change decide ((f.toModel.unpack.compare g.toModel.unpack == some .lt) = true) = true ↔ _
    simp
  have same : (f == g) = true ↔ f.toModel.unpack.compare g.toModel.unpack = some .eq := by
    change (f.toModel.unpack.compare g.toModel.unpack == some .eq) = true ↔ _
    simp
  simp only [order?, less, same]

variable {x y : Number} {a b : ℚ}

theorem order?_eq (hx : x.value? = some a) (hy : y.value? = some b) : order? x y = some (compare a b) := by
  cases x with
  | int n =>
    cases hx
    exact int_order?_of_value n hy
  | float f =>
    cases y with
    | int n =>
      cases hy
      rw [← order?_swap, int_order?_of_value n hx, Option.map_some, ← Std.OrientedCmp.eq_swap]
    | float g =>
      obtain ⟨s, r, hr, rfl⟩ := holds_of_value hx
      obtain ⟨t, q, hq, rfl⟩ := holds_of_value hy
      rw [order?_floats, hr.compare_eq hq, hq.compare_eq hr]
      rcases lt_trichotomy (signed s r) (signed t q) with less | same | more
      · rw [compare_lt_iff_lt.mpr less, if_pos rfl]
      · rw [same, compare_eq_iff_eq.mpr rfl]
        rfl
      · rw [compare_gt_iff_gt.mpr more, compare_lt_iff_lt.mpr more]
        rfl

theorem lt_iff (hx : x.value? = some a) (hy : y.value? = some b) : Number.lt x y = true ↔ a < b := by
  rw [Number.lt, order?_eq hx hy]
  simp [compare_lt_iff_lt]

theorem lt_eq_false_iff (hx : x.value? = some a) (hy : y.value? = some b) :
    Number.lt x y = false ↔ b ≤ a := by
  rw [← Bool.not_eq_true, lt_iff hx hy, not_lt]

theorem le_iff (hx : x.value? = some a) (hy : y.value? = some b) : Number.le x y = true ↔ a ≤ b := by
  rw [Number.le, order?_eq hx hy]
  simp [compare_lt_iff_lt, le_iff_lt_or_eq]

theorem not_finite (h : x.value? = none) : ∃ f, x = .float f ∧
    (f.toModel.unpack = .notANumber ∨ ∃ s, f.toModel.unpack = .infinity s) := by
  cases x with
  | int n => cases h
  | float f =>
    refine ⟨f, rfl, ?_⟩
    rw [float_value?] at h
    cases hu : f.toModel.unpack with
    | notANumber => exact .inl rfl
    | infinity s => exact .inr ⟨s, rfl⟩
    | zero | finite => rw [hu] at h; cases h

section

variable {f : Float}

/-- Nothing compares with what is not a number. -/
theorem order?_nan (nan : f.toModel.unpack = .notANumber) (x : Number) :
    order? x (.float f) = none ∧ order? (.float f) x = none := by
  cases x with
  | int n => simp [order?, ofFloat_eq, nan, parts]
  | float g =>
    have behind : g.toModel.unpack.compare .notANumber = none := by
      cases g.toModel.unpack <;> rfl
    have before : Float.Model.UnpackedFloat.compare .notANumber g.toModel.unpack = none := rfl
    rw [order?_floats, order?_floats, nan, behind, before]
    exact ⟨rfl, rfl⟩

/-- What is infinite is beyond everything that is finite. -/
theorem order?_infinity {s : Float.Model.UnpackedFloat.Sign} (infinite : f.toModel.unpack = .infinity s)
    (hx : x.value? = some a) :
    order? x (.float f) = some (if isNegative s then .gt else .lt) ∧
      order? (.float f) x = some (if isNegative s then .lt else .gt) := by
  cases x with
  | int n => simp [order?, ofFloat_eq, infinite, parts]
  | float g =>
    obtain ⟨t, r, held, rfl⟩ := holds_of_value hx
    rw [order?_floats, order?_floats, infinite]
    generalize g.toModel.unpack = u at held ⊢
    cases held <;> cases s <;> cases t <;> exact ⟨rfl, rfl⟩

end

/-- What is between two finite numbers is finite. -/
theorem finite_of_between {z : Number} (hx : x.value? = some a) (hy : y.value? = some b)
    (above : Number.le x z = true) (below : Number.le z y = true) : ∃ c, z.value? = some c := by
  cases hz : z.value? with
  | some c => exact ⟨c, rfl⟩
  | none =>
    obtain ⟨f, rfl, nan | ⟨s, infinite⟩⟩ := not_finite hz
    · rw [Number.le, (order?_nan nan x).1] at above
      cases above
    · rw [Number.le, (order?_infinity infinite hx).1] at above
      rw [Number.le, (order?_infinity infinite hy).2] at below
      cases s
      · cases above
      · cases below

end Number

end Docwright
