/-!
Unpaired surrogates, which are code points but no characters. Only the escapes of a JSON text bring
them in. A text that holds any is kept as a marked text, with characters of private use in their
place, and cannot be measured in code units.
-/

namespace Docwright.Text

def isSurrogate (n : Nat) : Bool :=
  0xD800 ≤ n && n < 0xE000

/-- The character of a code point in a marked text. Surrogates are moved on into private use, and so
are the code points whose place they take. -/
def marked (n : Nat) : Char :=
  Char.ofNat (if 0xD800 ≤ n ∧ n < 0xE800 then n + 0x800 else n)

/-- The surrogate that a character of a marked text stands for. -/
def surrogate? (c : Char) : Option Nat :=
  if isSurrogate (c.toNat - 0x800) then some (c.toNat - 0x800) else none

/-- The first unpaired surrogate of a marked text, and the number of characters before it. -/
def unpairedFrom (position : Nat) : List Char → Option (Nat × Nat)
  | [] => none
  | c :: cs => ((surrogate? c).map (·, position)).or (unpairedFrom (position + 1) cs)

def unpaired? (s : String) : Option (Nat × Nat) :=
  unpairedFrom 0 s.toList

theorem toNat_marked {n : Nat} (valid : n < 0x110000) :
    (marked n).toNat = if 0xD800 ≤ n ∧ n < 0xE800 then n + 0x800 else n := by
  have char (m : Nat) (h : m.isValidChar) : (Char.ofNat m).toNat = m := by
    rw [Char.ofNat, dif_pos h]
    rfl
  unfold marked
  split
  · exact char _ (.inr (by omega))
  · next still =>
    by_cases low : n < 0xD800
    · exact char _ (.inl low)
    · exact char _ (.inr (by omega))

/-- In a marked text, each surrogate can be told from all characters. -/
theorem surrogate?_marked {n : Nat} (valid : n < 0x110000) :
    surrogate? (marked n) = if isSurrogate n then some n else none := by
  unfold surrogate?
  rw [toNat_marked valid]
  simp only [isSurrogate, Bool.and_eq_true, decide_eq_true_eq]
  by_cases moved : 0xD800 ≤ n ∧ n < 0xE800
  · rw [if_pos moved, Nat.add_sub_cancel]
  · rw [if_neg moved, if_neg (by omega), if_neg (by omega)]

theorem isSome_unpairedFrom {position : Nat} {cs : List Char} :
    (unpairedFrom position cs).isSome ↔ ∃ c ∈ cs, (surrogate? c).isSome := by
  induction cs generalizing position with
  | nil => simp [unpairedFrom]
  | cons c cs ih => simp [unpairedFrom, ih]

theorem isSome_unpaired? {s : String} :
    (unpaired? s).isSome ↔ ∃ c ∈ s.toList, (surrogate? c).isSome :=
  isSome_unpairedFrom

theorem isSome_unpaired?_append {s t : String} :
    (unpaired? (s ++ t)).isSome ↔ (unpaired? s).isSome ∨ (unpaired? t).isSome := by
  simp only [isSome_unpaired?, String.toList_append, List.mem_append, or_and_right, exists_or]

theorem isSome_unpaired?_join {texts : List String} :
    (unpaired? (String.join texts)).isSome ↔ ∃ s ∈ texts, (unpaired? s).isSome := by
  induction texts with
  | nil => simp [unpaired?, unpairedFrom]
  | cons s texts ih =>
    rw [String.join_cons, isSome_unpaired?_append, ih]
    simp

end Docwright.Text
