import Docwright.Style.Check

namespace Docwright.Style

/-- The digits, each at the place of its value. -/
def hexDigits : List Char :=
  ['0', '1', '2', '3', '4', '5', '6', '7', '8', '9', 'a', 'b', 'c', 'd', 'e', 'f']

/-- Two digits, of either case, that stand for `n`. -/
def Pair (high low : Char) (n : Nat) : Prop :=
  ∃ h l, hexDigits.idxOf? high.toLower = some h ∧ hexDigits.idxOf? low.toLower = some l ∧
    n = 16 * h + l

/-- A hash sign, a pair of digits for each channel, and nothing else. -/
def Spells (s : String) (c : Color) : Prop :=
  ∃ r₁ r₂ g₁ g₂ b₁ b₂, s.toList = ['#', r₁, r₂, g₁, g₂, b₁, b₂] ∧ Pair r₁ r₂ c.red ∧
    Pair g₁ g₂ c.green ∧ Pair b₁ b₂ c.blue

/-- A hash sign and six digits. -/
def IsColor (s : String) : Prop :=
  ∃ c, Spells s c

/-- A line end behind a colour. -/
def IsColorLine (s : String) : Prop :=
  ∃ t, IsColor t ∧ s = t ++ "\n"

theorem hexDigit?_of_ascii : ∀ k < 128,
    hexDigit? (Char.ofNat k) = hexDigits.idxOf? (Char.ofNat k).toLower := by
  decide

/-- Beyond ASCII there are no digits, and no other case of one. -/
theorem not_le_of_not_ascii {d e : Char} (beyond : ¬d.toNat < 128) (ascii : e.toNat < 128) : ¬d ≤ e := by
  rw [Char.le_def, UInt32.le_iff_toNat_le]
  change ¬d.toNat ≤ e.toNat
  omega

theorem hexDigit?_eq (d : Char) : hexDigit? d = hexDigits.idxOf? d.toLower := by
  by_cases ascii : d.toNat < 128
  · rw [← Char.ofNat_toNat d]
    exact hexDigit?_of_ascii d.toNat ascii
  · have above (e : Char) (h : e.toNat < 128) : ¬d ≤ e := not_le_of_not_ascii ascii h
    have same : d.toLower = d := dif_neg fun h => above 'Z' (by decide) h.2
    have absent : d ∉ hexDigits := by
      intro listed
      have all : hexDigits.all (fun e => decide (e.toNat < 128)) = true := by decide
      exact ascii (of_decide_eq_true (List.all_eq_true.mp all d listed))
    have undigit : d.isDigit = false := by
      rw [Char.isDigit, Bool.and_eq_false_iff]
      exact .inr (decide_eq_false (above '9' (by decide)))
    rw [same, List.idxOf?_eq_none_iff.mpr absent, hexDigit?, undigit]
    simp [above 'f' (by decide), above 'F' (by decide)]

theorem hexPair?_eq_some_iff {high low : Char} {n : Nat} :
    hexPair? high low = some n ↔ Pair high low n := by
  simp only [hexPair?, hexDigit?_eq, Pair, bind, pure, Option.bind_eq_some_iff, Option.some.injEq,
    eq_comm (a := n)]
  constructor
  · rintro ⟨h, hh, l, hl, rfl⟩
    exact ⟨h, l, hh, hl, rfl⟩
  · rintro ⟨h, l, hh, hl, rfl⟩
    exact ⟨h, hh, l, hl, rfl⟩

theorem Pair.le {high low : Char} {n : Nat} (h : Pair high low n) : n ≤ 255 := by
  obtain ⟨h, l, hh, hl, rfl⟩ := h
  obtain ⟨first, _⟩ := List.idxOf?_eq_some_iff.mp hh
  obtain ⟨second, _⟩ := List.idxOf?_eq_some_iff.mp hl
  have : hexDigits.length = 16 := rfl
  omega

theorem ofChars?_eq_some_iff {cs : List Char} {c : Color} : Color.ofChars? cs = some c ↔
    ∃ r₁ r₂ g₁ g₂ b₁ b₂ rest, cs = '#' :: r₁ :: r₂ :: g₁ :: g₂ :: b₁ :: b₂ :: rest ∧
      (rest = [] ∨ rest = ['\n']) ∧ Pair r₁ r₂ c.red ∧ Pair g₁ g₂ c.green ∧ Pair b₁ b₂ c.blue := by
  simp only [← hexPair?_eq_some_iff]
  constructor
  · intro h
    unfold Color.ofChars? at h
    split at h
    · split at h
      · next closed =>
        simp only [bind, pure, Option.bind_eq_some_iff, Option.some.injEq] at h
        obtain ⟨r, hr, g, hg, b, hb, rfl⟩ := h
        exact ⟨_, _, _, _, _, _, _, rfl, closed, hr, hg, hb⟩
      · cases h
    · cases h
  · rintro ⟨r₁, r₂, g₁, g₂, b₁, b₂, rest, rfl, closed, red, green, blue⟩
    simp only [Color.ofChars?, if_pos closed, red, green, blue]
    rfl

theorem ofString?_eq_some_iff {s : String} {c : Color} : Color.ofString? s = some c ↔
    Spells s c ∨ ∃ t, Spells t c ∧ s = t ++ "\n" := by
  rw [Color.ofString?, ofChars?_eq_some_iff]
  constructor
  · rintro ⟨r₁, r₂, g₁, g₂, b₁, b₂, rest, shape, rfl | rfl, pairs⟩
    · exact .inl ⟨_, _, _, _, _, _, shape, pairs⟩
    · refine .inr ⟨.ofList ['#', r₁, r₂, g₁, g₂, b₁, b₂], ⟨_, _, _, _, _, _, String.toList_ofList, pairs⟩, ?_⟩
      apply String.toList_inj.mp
      rw [shape, String.toList_append, String.toList_ofList]
      rfl
  · rintro (⟨r₁, r₂, g₁, g₂, b₁, b₂, shape, pairs⟩ | ⟨t, ⟨r₁, r₂, g₁, g₂, b₁, b₂, shape, pairs⟩, rfl⟩)
    · exact ⟨_, _, _, _, _, _, [], shape, .inl rfl, pairs⟩
    · refine ⟨r₁, r₂, g₁, g₂, b₁, b₂, ['\n'], ?_, .inr rfl, pairs⟩
      rw [String.toList_append, shape]
      rfl

theorem Spells.channels {s : String} {c : Color} (h : Spells s c) :
    c.red ≤ 255 ∧ c.green ≤ 255 ∧ c.blue ≤ 255 := by
  obtain ⟨_, _, _, _, _, _, _, red, green, blue⟩ := h
  exact ⟨red.le, green.le, blue.le⟩

theorem isSome_ofString?_iff {s : String} :
    (Color.ofString? s).isSome ↔ IsColor s ∨ IsColorLine s := by
  simp only [Option.isSome_iff_exists, ofString?_eq_some_iff]
  constructor
  · rintro ⟨c, spelled | ⟨t, spelled, rfl⟩⟩
    · exact .inl ⟨c, spelled⟩
    · exact .inr ⟨t, ⟨c, spelled⟩, rfl⟩
  · rintro (⟨c, spelled⟩ | ⟨t, ⟨c, spelled⟩, rfl⟩)
    · exact ⟨c, .inl spelled⟩
    · exact ⟨c, .inr ⟨t, spelled, rfl⟩⟩

theorem IsColor.length {s : String} (h : IsColor s) : s.toList.length = 7 := by
  obtain ⟨c, _, _, _, _, _, _, shape, _⟩ := h
  exact congrArg List.length shape

theorem IsColorLine.length {s : String} (h : IsColorLine s) : s.toList.length = 8 := by
  obtain ⟨t, color, rfl⟩ := h
  rw [String.toList_append, List.length_append, color.length]
  rfl

theorem exists_readColor {parameter s : String} :
    (∃ o, readColor parameter (.str s) = .ok o) ↔ IsColor s ∨ IsColorLine s := by
  rw [← isSome_ofString?_iff, readColor]
  cases Color.ofString? s <;> simp

end Docwright.Style
