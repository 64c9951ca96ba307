/-!
Text measured in UTF-16 code units, the unit in which document positions are counted.
-/

namespace Docwright.Text

/-- A character above U+FFFF is written as a pair of units. -/
def charUnits (c : Char) : List UInt16 :=
  if c.toNat < 0x10000 then [c.toNat.toUInt16]
  else [(0xD800 + (c.toNat - 0x10000) / 0x400).toUInt16, (0xDC00 + (c.toNat - 0x10000) % 0x400).toUInt16]

/-- The code units of a text, in order. -/
def units (s : String) : List UInt16 :=
  s.toList.flatMap charUnits

def charWidth (c : Char) : Nat :=
  if c.toNat < 0x10000 then 1 else 2

def charsWidth : List Char → Nat
  | [] => 0
  | c :: cs => charWidth c + charsWidth cs

/-- The number of code units of a text. -/
def width (s : String) : Nat :=
  charsWidth s.toList

theorem length_charUnits (c : Char) : (charUnits c).length = charWidth c := by
  unfold charUnits charWidth; split <;> rfl

theorem length_flatMap_charUnits (cs : List Char) :
    (cs.flatMap charUnits).length = charsWidth cs := by
  induction cs with
  | nil => rfl
  | cons c cs ih => simp [charsWidth, length_charUnits, ih]

theorem length_units (s : String) : (units s).length = width s :=
  length_flatMap_charUnits s.toList

theorem charsWidth_append (cs ds : List Char) :
    charsWidth (cs ++ ds) = charsWidth cs + charsWidth ds := by
  induction cs with
  | nil => simp [charsWidth]
  | cons c cs ih => simp only [List.cons_append, charsWidth, ih]; omega

@[simp] theorem width_empty : width "" = 0 := rfl

@[simp] theorem width_append (s t : String) : width (s ++ t) = width s + width t := by
  simp only [width, String.toList_append, charsWidth_append]

@[simp] theorem units_append (s t : String) : units (s ++ t) = units s ++ units t := by
  simp [units]

theorem charWidth_pos (c : Char) : 0 < charWidth c := by
  unfold charWidth; split <;> omega

theorem width_pos {s : String} (h : s ≠ "") : 0 < width s := by
  have nonempty : s.toList ≠ [] := by simpa using h
  obtain ⟨c, cs, hs⟩ := List.exists_cons_of_ne_nil nonempty
  have := charWidth_pos c
  simp only [width, hs, charsWidth]
  omega

theorem append_ne {s t : String} (h : t ≠ "") : s ++ t ≠ "" := by
  intro empty
  have widths := congrArg width empty
  have := width_pos h
  rw [width_append, width_empty] at widths
  omega

theorem join_ne {α : Type} {line : α → String} {xs : List α} (nonempty : xs ≠ [])
    (h : ∀ x ∈ xs, line x ≠ "") : String.join (xs.map line) ≠ "" := by
  obtain ⟨x, rest, rfl⟩ := List.exists_cons_of_ne_nil nonempty
  intro empty
  rw [List.map_cons, String.join_cons] at empty
  have widths := congrArg width empty
  have := width_pos (h x List.mem_cons_self)
  rw [width_append, width_empty] at widths
  omega

end Docwright.Text
