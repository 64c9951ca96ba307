import Docwright.Proofs.Template.Grammar
import Mathlib.Data.List.TakeWhile

namespace Docwright.Template

open Style Checked

theorem passes_readString {v : Json} : Passes (readString v) ↔ IsText anyText v := by
  cases v with
  | str s => exact ⟨fun _ => ⟨s, rfl, trivial⟩, fun _ => passes_ok s⟩
  | null | bool | num | arr | obj =>
    constructor
    · intro h
      exact absurd h (not_passes_refused _)
    · rintro ⟨s, h, _⟩
      cases h

theorem readString_eq_ok {v : Json} {s : String} (h : readString v = .ok s) : v = .str s := by
  cases v with
  | str t => cases h; rfl
  | null | bool | num | arr | obj => cases h

/-- A check on a text. -/
theorem passes_readString_andThen {α : Type} {v : Json} {f : String → Checked α} :
    Passes ((readString v).andThen f) ↔ IsText (fun s => Passes (f s)) v := by
  rw [passes_andThen]
  constructor
  · rintro ⟨s, hs, h⟩
    exact ⟨s, readString_eq_ok hs, h⟩
  · rintro ⟨s, rfl, h⟩
    exact ⟨s, rfl, h⟩

theorem passes_readBool {v : Json} : Passes (readBool v) ↔ IsTruth v := by
  have refused (message : String) : ¬Passes (fail message : Checked Bool) := not_passes_refused _
  cases v with
  | null | arr | obj => exact ⟨fun h => absurd h (refused _), False.elim⟩
  | bool b => exact ⟨fun _ => trivial, fun _ => passes_ok b⟩
  | num n =>
    cases n with
    | int n =>
      simp only [readBool, IsTruth]
      by_cases zero : n = 0
      · simp [zero, passes_ok]
      · by_cases one : n = 1
        · simp [one, passes_ok]
        · simp [zero, one, unclearBool, refused]
    | float x =>
      simp only [readBool, IsTruth]
      by_cases zero : x == 0.0
      · simp [zero, passes_ok]
      · by_cases one : x == 1.0
        · simp [zero, one, passes_ok]
        · simp [zero, one, refused]
  | str s =>
    simp only [readBool, IsTruth]
    generalize s.map Char.toLower = word
    have words : word ∈ ["0", "f", "n", "no", "off", "false", "1", "t", "y", "on", "yes", "true"] ↔
        word ∈ falseWords ∨ word ∈ trueWords := List.mem_append (s := falseWords) (t := trueWords)
    rw [words]
    by_cases no : word ∈ falseWords
    · simp [no, passes_ok]
    · by_cases yes : word ∈ trueWords
      · simp [no, yes, passes_ok]
      · simp [no, yes, unclearBool, refused]

theorem fraction_eq (b : Decimal.Binary) :
    b.fraction = (b.mantissa * 2 ^ b.exponent.toNat, 2 ^ (-b.exponent).toNat) := by
  unfold Decimal.Binary.fraction Decimal.powerFraction
  by_cases small : b.exponent < 0
  · have up : b.exponent.toNat = 0 := by omega
    have down : (-b.exponent).toNat = b.exponent.natAbs := by omega
    rw [if_pos small, up, down]
    rfl
  · have up : b.exponent.toNat = b.exponent.natAbs := by omega
    have down : (-b.exponent).toNat = 0 := by omega
    rw [if_neg small, up, down]
    rfl

theorem readWholeFloat_eq_ok_iff {x : Float} {n : Int} :
    readWholeFloat x = .ok n ↔ IsWhole64 n (Decimal.Parts.ofFloat x) := by
  unfold readWholeFloat
  cases Decimal.Parts.ofFloat x with
  | nan | infinite => exact ⟨nofun, False.elim⟩
  | finite negative b =>
    simp only [IsWhole64, fraction_eq]
    generalize b.mantissa * 2 ^ b.exponent.toNat = above
    have positive : 0 < 2 ^ (-b.exponent).toNat := Nat.two_pow_pos _
    generalize 2 ^ (-b.exponent).toNat = below at positive
    by_cases whole : below ∣ above
    · obtain ⟨q, rfl⟩ := whole
      have quotient : below * q / below = q := Nat.mul_div_cancel_left q positive
      have same (m : Nat) : below * q = m * below ↔ q = m := by
        rw [Nat.mul_comm m, Nat.mul_right_inj (Nat.ne_of_gt positive)]
      simp only [Nat.mul_mod_right, bne_self_eq_false, Bool.false_eq_true, ↓reduceIte, quotient, same]
      split
      · next fits =>
        cases negative with
        | true => simp; omega
        | false => simp; omega
      · next large =>
        constructor
        · exact nofun
        · rintro ⟨rfl, small, _⟩
          exact absurd small large
    · have part : ¬above % below = 0 := fun h => whole (Nat.dvd_of_mod_eq_zero h)
      simp only [bne_iff_ne, ne_eq, part, not_false_eq_true, ↓reduceIte]
      constructor
      · exact nofun
      · rintro ⟨same, _⟩
        exact absurd ⟨_, same.trans (Nat.mul_comm _ _)⟩ whole

theorem readInt_eq_ok_iff {v : Json} {n : Int} : readInt v = .ok n ↔ Denotes n v := by
  cases v with
  | null | arr | obj => exact ⟨nofun, False.elim⟩
  | bool b => simp [readInt, Denotes]
  | num m =>
    cases m with
    | int m => simp [readInt, Denotes]
    | float x => exact readWholeFloat_eq_ok_iff
  | str s =>
    simp only [readInt, Denotes]
    generalize Number.maxDigits = digits
    have power : Nat.pow 10 digits = 10 ^ digits := rfl
    simp only [power]
    cases textInt? s with
    | none => simp [fail]
    | some m =>
      simp only [Option.some.injEq]
      split
      · next long =>
        refine ⟨nofun, ?_⟩
        rintro ⟨rfl, short⟩
        omega
      · next short =>
        rw [Checked.ok.injEq]
        refine ⟨?_, And.left⟩
        rintro rfl
        exact ⟨rfl, by omega⟩

theorem passes_readInt {v : Json} : Passes (readInt v) ↔ IsInteger (fun _ => True) v := by
  simp only [Passes, readInt_eq_ok_iff, IsInteger, and_true]

/-- What is looked up by name is found if and only if its name is listed. -/
theorem isSome_find?_name {α : Type} (all : List α) (name : α → String) (s : String) :
    (all.find? (name · = s)).isSome ↔ s ∈ all.map name := by
  rw [List.find?_isSome]
  simp

theorem exists_readOptionalColor (s : String) :
    (∃ c, readOptionalColor s = .ok c) ↔ s = "" ∨ (Color.ofString? s).isSome := by
  unfold readOptionalColor
  split
  · next empty => simp [empty]
  · next filled =>
    simp only [readColor]
    cases Color.ofString? s with
    | none => simp [filled]
    | some c => simp

theorem exists_readStyle (s : String) :
    (∃ a, NamedStyle.read s = .ok a) ↔ EmptyOr Refusal.styleNames s := by
  have listed := isSome_find?_name NamedStyle.all NamedStyle.name s
  unfold NamedStyle.read NamedStyle.ofName? EmptyOr
  split
  · next empty => simp [empty]
  · next filled =>
    rw [← show _ ↔ s ∈ Refusal.styleNames from listed]
    cases NamedStyle.all.find? (·.name = s) with
    | none => simp [filled]
    | some a => simp

theorem exists_readAlignment (s : String) :
    (∃ a, TextAlignment.read s = .ok a) ↔ EmptyOr Refusal.alignmentNames s := by
  have listed := isSome_find?_name TextAlignment.all TextAlignment.name s
  unfold TextAlignment.read TextAlignment.ofName? EmptyOr
  split
  · next empty => simp [empty]
  · next filled =>
    rw [← show _ ↔ s ∈ Refusal.alignmentNames from listed]
    cases TextAlignment.all.find? (·.name = s) with
    | none => simp [filled]
    | some a => simp

theorem passes_readWrittenColor {v : Json} : Passes (readWrittenColor v) ↔
    IsText (fun s => s = "" ∨ (Color.ofString? s).isSome) v := by
  unfold readWrittenColor
  rw [passes_readString_andThen]
  simp only [passes_andThen, ofRefusal_eq_ok_iff, passes_ok, and_true, exists_readOptionalColor]

theorem passes_readNamedStyle {v : Json} : Passes (readNamedStyle v) ↔
    IsText (EmptyOr Refusal.styleNames) v := by
  unfold readNamedStyle
  rw [passes_readString_andThen]
  simp only [passes_ofRefusal, exists_readStyle]

theorem passes_readAlignment {v : Json} : Passes (readAlignment v) ↔
    IsText (EmptyOr Refusal.alignmentNames) v := by
  unfold readAlignment
  rw [passes_readString_andThen]
  simp only [passes_ofRefusal, exists_readAlignment]

theorem isZero_int (n : Int) : (Number.int n).isZero = decide (n = 0) := by
  have order : (Number.int n).order? 0 = some (compare n 0) := rfl
  rw [Number.isZero, Number.eq, order, Bool.eq_iff_iff]
  simp

theorem le_int (m n : Int) : (Number.int m).le (.int n) = decide (m ≤ n) := by
  have order : (Number.int m).order? (.int n) = some (compare m n) := rfl
  rw [Number.le, order, Bool.eq_iff_iff]
  simp [Int.compare_eq_lt]
  omega

theorem exists_checkFontSize {n : Int} :
    (∃ u, checkFontSize (.int n) = .ok u) ↔ n = 0 ∨ 8 ≤ n ∧ n ≤ 72 := by
  simp only [checkFontSize, isZero_int, le_int, Refusal.minFontSize, Refusal.maxFontSize]
  split
  · next fits => simpa using fits
  · next unfit => simpa using unfit

theorem passes_readFontSize {v : Json} : Passes (readFontSize v) ↔
    IsInteger (fun n => n = 0 ∨ 8 ≤ n ∧ n ≤ 72) v := by
  unfold readFontSize
  simp only [passes_andThen, readInt_eq_ok_iff, ofRefusal_eq_ok_iff, passes_ok, and_true,
    exists_checkFontSize, IsInteger]

theorem passes_readFormat {v : Json} : Passes (readFormat v) ↔ IsFormat v := by
  unfold readFormat
  rw [passes_readObject]
  constructor
  · rintro ⟨members, rfl, read, known⟩
    simp only [passes_seq, passes_map, passes_optional, passes_readBool, passes_readFontSize,
      passes_readString, passes_readWrittenColor, passes_readNamedStyle, passes_readAlignment]
      at read
    obtain ⟨⟨⟨⟨⟨⟨⟨⟨⟨bold, italic⟩, underline⟩, strikethrough⟩, size⟩, family⟩, color⟩, background⟩,
      namedStyle⟩, alignment⟩ := read
    exact {
      object := ⟨members, rfl, known⟩
      flags := by simp [bold, italic, underline, strikethrough]
      size, family
      colors := by simp [color, background]
      namedStyle, alignment }
  · rintro ⟨⟨members, rfl, known⟩, flags, size, family, colors, namedStyle, alignment⟩
    refine ⟨members, rfl, ?_, known⟩
    simp only [List.forall_mem_cons] at flags colors
    simp only [passes_seq, passes_map, passes_optional, passes_readBool, passes_readFontSize,
      passes_readString, passes_readWrittenColor, passes_readNamedStyle, passes_readAlignment]
    exact ⟨⟨⟨⟨⟨⟨⟨⟨⟨flags.1, flags.2.1⟩, flags.2.2.1⟩, flags.2.2.2.1⟩, size⟩, family⟩, colors.1⟩,
      colors.2.1⟩, namedStyle⟩, alignment⟩

theorem passes_readTitleText {v : Json} : Passes (readTitleText v) ↔ IsTitle v := by
  unfold readTitleText
  rw [passes_readObject]
  simp only [passes_seq, passes_map, passes_required, passes_optional, passes_readString,
    passes_readFormat]
  constructor
  · rintro ⟨members, rfl, ⟨text, style⟩, known⟩
    exact ⟨⟨members, rfl, known⟩, text, style⟩
  · rintro ⟨⟨members, rfl, known⟩, text, style⟩
    exact ⟨members, rfl, ⟨text, style⟩, known⟩

theorem passes_readTitle {v : Json} : Passes (readTitle v) ↔ v = .null ∨ IsTitle v := by
  cases v with
  | null => exact ⟨fun _ => .inl rfl, fun _ => passes_ok none⟩
  | bool | num | str | arr | obj =>
    rw [readTitle, passes_map, passes_readTitleText]
    · simp
    · exact nofun

theorem trim_eq_nil_iff {p : Char → Bool} {cs : List Char} :
    Text.trim p cs = [] ↔ cs.all p = true := by
  simp only [Text.trim, List.reverse_eq_nil_iff, List.dropWhile_eq_nil_iff, List.mem_reverse,
    List.all_eq_true]
  constructor
  · intro rest c hc
    rw [← List.takeWhile_append_dropWhile (p := p) (l := cs)] at hc
    rcases List.mem_append.mp hc with hc | hc
    · exact List.mem_takeWhile_imp hc
    · exact rest c hc
  · intro all c hc
    exact all c ((List.dropWhile_sublist p).mem hc)

theorem allBlank_eq_false_iff {s : String} : Text.allBlank s = false ↔ IsVisible s := by
  rw [IsVisible, Text.strip, ne_eq, String.ofList_eq_empty_iff, trim_eq_nil_iff, Text.allBlank]
  simp

theorem passes_readHeadingText {v : Json} : Passes (readHeadingText v) ↔ IsText IsVisible v := by
  have visible (s : String) : Passes (if Text.allBlank s
      then fail "Value error, section heading cannot be empty" else .ok s) ↔ IsVisible s := by
    rw [← allBlank_eq_false_iff]
    cases Text.allBlank s with
    | true => simp [fail, not_passes_refused]
    | false => simp [passes_ok]
  unfold readHeadingText
  rw [passes_readString_andThen]
  simp only [visible]

theorem checkItemsFrom_of_visible {position : Nat} {items : List String}
    (h : ∀ item ∈ items, Text.allBlank item = false) : checkItemsFrom position items = .ok () := by
  induction items generalizing position with
  | nil => rfl
  | cons first rest ih =>
    rw [checkItemsFrom, h first List.mem_cons_self]
    exact ih fun item hi => h item (List.mem_cons_of_mem _ hi)

theorem exists_checkItems {items : List String} : (∃ u, checkItems items = .ok u) ↔
    items ≠ [] ∧ ∀ item ∈ items, IsVisible item := by
  simp only [← allBlank_eq_false_iff]
  constructor
  · rintro ⟨_, h⟩
    exact checkItems_eq_ok h
  · rintro ⟨filled, visible⟩
    refine ⟨(), ?_⟩
    rw [checkItems, if_neg (by simpa using filled)]
    exact checkItemsFrom_of_visible visible

theorem exists_checkIndent {levels : Int} :
    (∃ u, checkIndent levels = .ok u) ↔ 0 ≤ levels ∧ levels ≤ 9 := by
  constructor
  · rintro ⟨_, h⟩
    exact checkIndent_eq_ok h
  · rintro ⟨least, most⟩
    refine ⟨(), ?_⟩
    rw [checkIndent, if_neg (by omega), if_neg (by simp only [Refusal.maxIndent]; omega)]

theorem exists_readListKind (s : String) :
    (∃ k, ListKind.read s = .ok k) ↔ s ∈ Refusal.listKindNames := by
  have listed := isSome_find?_name ListKind.all ListKind.name s
  rw [← show _ ↔ s ∈ Refusal.listKindNames from listed]
  unfold ListKind.read ListKind.ofName?
  split
  · next empty =>
    subst empty
    constructor
    · rintro ⟨_, h⟩
      cases h
    · intro h
      exact absurd h (by decide)
  · next filled =>
    cases ListKind.all.find? (·.name = s) with
    | none => simp
    | some k => simp

theorem isText_iff {p : String → Prop} {w : Json} {s : String} (h : readString w = .ok s) :
    IsText p w ↔ p s := by
  cases readString_eq_ok h
  simp [IsText]

theorem isInteger_iff {p : Int → Prop} {w : Json} {n : Int} (h : readInt w = .ok n) :
    IsInteger p w ↔ p n := by
  simp only [IsInteger, ← readInt_eq_ok_iff, h, Checked.ok.injEq, exists_eq_left']

theorem itemsFrom_readString_eq_ok {position : Nat} {vs : List Json} {items : List String}
    (h : itemsFrom readString position vs = .ok items) : vs = items.map .str := by
  induction vs generalizing position items with
  | nil => cases h; rfl
  | cons v vs ih =>
    obtain ⟨_, rest, opened, hrest, rfl⟩ := seq_eq_ok h
    obtain ⟨first, hfirst, rfl⟩ := map_eq_ok opened
    rw [readString_eq_ok (under_eq_ok_iff.mp hfirst), ih hrest]
    rfl

theorem isFilledList_iff {p : String → Prop} {w : Json} {items : List String}
    (h : readList readString w = .ok items) :
    IsList w (IsText p) ∧ w.items ≠ [] ↔ items ≠ [] ∧ ∀ item ∈ items, p item := by
  cases w with
  | arr vs =>
    cases itemsFrom_readString_eq_ok h
    simp [IsList, IsText, Json.items, and_comm]
  | null | bool | num | str | obj => cases h

end Docwright.Template
