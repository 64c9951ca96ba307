import Docwright.Number.Reading
import Mathlib.Order.Compare

/-!
Numbers as fractions. Every integer and every finite double is a fraction of integers, and numbers
compare with integers as their fractions do (`eq_int_iff`, `int_le_iff`, `int_lt_iff`, `lt_int_iff`).
The integer part of a double stands above the same positive integers as the double
(`truncate?_of_fraction`).
-/

namespace Docwright

theorem Decimal.Binary.fraction_pos (b : Decimal.Binary) : 0 < b.fraction.2 := by
  unfold Decimal.Binary.fraction Decimal.powerFraction
  by_cases small : b.exponent < 0
  · simp only [small, ↓reduceIte]
    exact Nat.two_pow_pos _
  · simp only [small, ↓reduceIte]
    exact Nat.one_pos

namespace Number

/-- A number as a signed numerator and a denominator. What is not finite has none. -/
def fraction? : Number → Option (Int × Nat)
  | .int n => some (n, 1)
  | .float x => match Decimal.Parts.ofFloat x with
    | .finite negative b =>
      some (if negative then -(b.fraction.1 : Int) else b.fraction.1, b.fraction.2)
    | .nan | .infinite _ => none

theorem order?_swap (x : Number) (n : Int) :
    (order? (.int n) x).map Ordering.swap = order? x (.int n) := by
  cases x with
  | int m => exact congrArg some Std.OrientedCmp.eq_swap.symm
  | float y =>
    simp only [order?]
    split
    · rfl
    · next negative _ => cases negative <;> rfl
    · rfl

section

variable {x : Number} {p : Int} {d : Nat} (h : x.fraction? = some (p, d))

include h

theorem denominator_pos : 0 < d := by
  cases x with
  | int n =>
    cases h
    exact Nat.one_pos
  | float y =>
    simp only [fraction?] at h
    split at h
    · next b _ =>
      cases h
      exact b.fraction_pos
    · cases h
    · cases h

theorem int_order? (n : Int) : order? (.int n) x = some (compare (n * d) p) := by
  cases x with
  | int m =>
    cases h
    simp [order?]
  | float y =>
    simp only [fraction?] at h
    split at h
    · next negative b parts =>
      cases h
      simp only [order?, parts, compareInt]
    · cases h
    · cases h

theorem order?_int (n : Int) : order? x (.int n) = some (compare p (n * d)) := by
  rw [← order?_swap, int_order? h, Option.map_some, ← Std.OrientedCmp.eq_swap]

theorem eq_int_iff (n : Int) : x.eq (.int n) = true ↔ p = n * d := by
  simp [eq, order?_int h n]

theorem int_le_iff (n : Int) : Number.le (.int n) x = true ↔ n * d ≤ p := by
  simp [le, int_order? h n, Int.compare_eq_lt, Int.le_iff_lt_or_eq]

theorem int_lt_iff (n : Int) : Number.lt (.int n) x = true ↔ n * d < p := by
  simp [lt, int_order? h n, Int.compare_eq_lt]

theorem lt_int_iff (n : Int) : Number.lt x (.int n) = true ↔ p < n * d := by
  simp [lt, order?_int h n, Int.compare_eq_lt]

end

theorem truncate?_of_fraction {y : Float} {p : Int} {d : Nat} (h : fraction? (.float y) = some (p, d)) :
    ∃ q, truncate? y = some q ∧ ∀ n : Int, 0 < n → (n ≤ q ↔ n * d ≤ p) := by
  simp only [fraction?] at h
  split at h
  · next negative b parts =>
    cases h
    simp only [truncate?, parts]
    refine ⟨_, rfl, fun n positive => ?_⟩
    have above := b.fraction_pos
    generalize b.fraction.2 = below at above
    obtain ⟨k, rfl⟩ := Int.eq_ofNat_of_zero_le (Int.le_of_lt positive)
    cases negative with
    | true =>
      -- neither side holds: nothing below zero stands above a positive integer
      have product : 0 < (k : Int) * below := Int.mul_pos positive (by omega)
      have quotient : (0 : Int) ≤ (b.fraction.1 / below : Nat) := Int.natCast_nonneg _
      simp only [↓reduceIte]
      constructor
      · intro
        omega
      · intro
        omega
    | false =>
      simp only [Bool.false_eq_true, ↓reduceIte]
      exact_mod_cast Nat.le_div_iff_mul_le above
  · cases h
  · cases h

end Number

end Docwright
