import Docwright.Text.Units

/-!
Pairs of code units. A character above U+FFFF is written as a leading and a trailing unit, and no
text ends between the two (`not_splitsPair`).
-/

namespace Docwright.Text

def IsLeading (u : UInt16) : Prop :=
  0xD800 ≤ u.toNat ∧ u.toNat < 0xDC00

def IsTrailing (u : UInt16) : Prop :=
  0xDC00 ≤ u.toNat ∧ u.toNat < 0xE000

/-- Whether the units from `k` on start with the second half of a pair. -/
def SplitsPair (us : List UInt16) (k : Nat) : Prop :=
  ∃ a leading trailing b, us = a ++ leading :: trailing :: b ∧ k = a.length + 1 ∧
    IsLeading leading ∧ IsTrailing trailing

theorem not_isLeading_of_charUnits {c : Char} {us : List UInt16} {u : UInt16}
    (h : charUnits c = us ++ [u]) : ¬IsLeading u := by
  have last : (charUnits c).getLast? = some u := by rw [h, List.getLast?_concat]
  unfold charUnits at last
  split at last
  · have valid : c.toNat < 0xD800 ∨ 0xDFFF < c.toNat ∧ c.toNat < 0x110000 := c.valid
    rw [List.getLast?_singleton, Option.some.injEq] at last
    subst last
    simp only [IsLeading, Nat.toUInt16_eq, UInt16.toNat_ofNat']
    omega
  · rw [List.getLast?_cons_cons, List.getLast?_singleton, Option.some.injEq] at last
    subst last
    simp only [IsLeading, Nat.toUInt16_eq, UInt16.toNat_ofNat']
    omega

theorem not_isLeading_of_units {s : String} {us : List UInt16} {u : UInt16}
    (h : units s = us ++ [u]) : ¬IsLeading u := by
  unfold units at h
  rcases List.eq_nil_or_concat s.toList with empty | ⟨cs, c, some⟩
  · simp [empty] at h
  · rw [some, List.concat_eq_append, List.flatMap_append, List.flatMap_singleton] at h
    rcases List.eq_nil_or_concat (charUnits c) with empty | ⟨vs, v, own⟩
    · have width := length_charUnits c
      have := charWidth_pos c
      rw [empty, List.length_nil] at width
      omega
    · rw [List.concat_eq_append] at own
      rw [own, ← List.append_assoc] at h
      obtain ⟨_, same⟩ := List.append_inj' h rfl
      cases same
      exact not_isLeading_of_charUnits own

/-- A text never stops in the middle of a pair, whatever follows it. -/
theorem not_splitsPair (s t : String) : ¬SplitsPair (units (s ++ t)) (width s) := by
  rintro ⟨a, leading, trailing, b, whole, place, isLeading, _⟩
  have split : units s ++ units t = (a ++ [leading]) ++ trailing :: b := by
    rw [← units_append, whole, List.append_assoc]
    rfl
  have length : (units s).length = (a ++ [leading]).length := by
    rw [length_units, place, List.length_append, List.length_singleton]
  exact not_isLeading_of_units (List.append_inj split length).1 isLeading

end Docwright.Text
