import Docwright.Proofs.Style.Color
import Docwright.Proofs.Template.Values

namespace Docwright.Json

variable {members : List (String × Json)} {name other : String} {v : Json}

theorem lookup_put_self : lookup name (put name v members) = some v := by
  induction members with
  | nil => exact if_pos rfl
  | cons m rest ih =>
    rw [put]
    split
    · next same => exact if_pos same
    · next differs => rw [lookup, if_neg differs, ih]

theorem lookup_put_of_ne (differs : other ≠ name) :
    lookup other (put name v members) = lookup other members := by
  induction members with
  | nil => exact if_neg differs.symm
  | cons m rest ih =>
    rw [put]
    split
    · next same => rw [lookup, lookup, same, if_neg differs.symm, if_neg differs.symm]
    · rw [lookup, lookup, ih]

theorem eq_or_mem_of_mem_put {m : String × Json} (h : m ∈ put name v members) :
    m = (name, v) ∨ m ∈ members := by
  induction members with
  | nil => exact .inl (List.mem_singleton.mp h)
  | cons first rest ih =>
    rw [put] at h
    split at h
    · next same => exact same ▸ (List.mem_cons.mp h).imp_right (List.mem_cons_of_mem _)
    · rcases List.mem_cons.mp h with rfl | h
      · exact .inr List.mem_cons_self
      · exact (ih h).imp_right (List.mem_cons_of_mem _)

end Docwright.Json

namespace Docwright.Template

open Style

section

variable {members : List (String × Json)} {name other : String} {w : Json} {p : Json → Prop}

theorem may_put_self : May (.obj (Json.put name w members)) name p ↔ p w := by
  simp [May, Json.get?, Json.members, Json.lookup_put_self]

theorem may_put_of_ne (differs : other ≠ name) :
    May (.obj (Json.put name w members)) other p ↔ May (.obj members) other p := by
  simp only [May, Json.get?, Json.members, Json.lookup_put_of_ne differs]

end

/-- Of a format that is accepted, a colour may be replaced by what is accepted as a colour. -/
theorem isFormat_put_iff {members : List (String × Json)} {name : String} {w : Json}
    (h : IsFormat (.obj members)) (color : name ∈ ["color", "bg_color"]) :
    IsFormat (.obj (Json.put name w members)) ↔
      IsText (fun s => s = "" ∨ (Color.ofString? s).isSome) w := by
  constructor
  · intro changed
    exact may_put_self.mp (changed.colors name color)
  · intro text
    have either : name = "color" ∨ name = "bg_color" := by simpa using color
    have differs : ∀ other ∈ ["bold", "italic", "underline", "strikethrough", "font_size", "font_family",
        "named_style", "alignment"], other ≠ name := by
      rcases either with rfl | rfl <;> decide
    have known : name ∈ ["bold", "italic", "underline", "strikethrough", "font_size", "font_family",
        "color", "bg_color", "named_style", "alignment"] := by
      rcases either with rfl | rfl <;> decide
    have kept {other : String} {p : Json → Prop} (here : other ≠ name) (may : May (.obj members) other p) :
        May (.obj (Json.put name w members)) other p :=
      (may_put_of_ne here).mpr may
    exact {
      object := isObject_iff.mpr fun m hm => by
        rcases Json.eq_or_mem_of_mem_put hm with rfl | hm
        · exact known
        · exact isObject_iff.mp h.object m hm
      flags := fun other ho => kept (differs other (List.mem_append_left _ ho)) (h.flags other ho)
      size := kept (differs _ (by decide)) h.size
      family := kept (differs _ (by decide)) h.family
      colors := fun other ho => by
        by_cases same : other = name
        · subst same
          exact may_put_self.mpr text
        · exact kept same (h.colors other ho)
      namedStyle := kept (differs _ (by decide)) h.namedStyle
      alignment := kept (differs _ (by decide)) h.alignment }

/-- Whether an attribute of an object is fit to be a colour. -/
def ColorFits (v : Json) (name : String) : Prop :=
  ∃ o, readColor name ((v.get? name).getD .null) = .ok o

/-- A style is made exactly if both of its colours are fit. -/
theorem exists_ofJson {v : Json} : (∃ t, TextStyle.ofJson v = .ok t) ↔
    ColorFits v "foreground_color" ∧ ColorFits v "background_color" := by
  unfold TextStyle.ofJson ColorFits
  generalize readColor "foreground_color" ((v.get? "foreground_color").getD .null) = foreground
  generalize readColor "background_color" ((v.get? "background_color").getD .null) = background
  cases foreground <;> cases background <;> simp [bind, Except.bind, pure, Except.pure]

section

variable {members : List (String × Json)} {name other s : String}

theorem colorFits_put_self :
    ColorFits (.obj (Json.put name (.str s) members)) name ↔ IsColor s ∨ IsColorLine s := by
  simp only [ColorFits, Json.get?, Json.members, Json.lookup_put_self, Option.getD_some]
  exact exists_readColor

theorem colorFits_put_of_ne {v : Json} (differs : other ≠ name) :
    ColorFits (.obj (Json.put name v members)) other ↔ ColorFits (.obj members) other := by
  simp only [ColorFits, Json.get?, Json.members, Json.lookup_put_of_ne differs]

end

/-- In every place where a colour is given, a text is accepted exactly if `fits` holds, be the other
attributes what they may. Where the empty text stands for no colour, nothing is said of it. -/
structure AcceptedIff (s : String) (fits : Prop) : Prop where
  alone : ∀ parameter, (∃ o, readColor parameter (.str s) = .ok o) ↔ fits
  checked : s ≠ "" → ((∃ o, readOptionalColor s = .ok o) ↔ fits)
  styles : ∀ name ∈ ["foreground_color", "background_color"], ∀ members,
    (∃ t, TextStyle.ofJson (.obj members) = .ok t) →
      ((∃ t, TextStyle.ofJson (.obj (Json.put name (.str s) members)) = .ok t) ↔ fits)
  formats : s ≠ "" → ∀ name ∈ ["color", "bg_color"], ∀ members,
    Passes (readFormat (.obj members)) →
      (Passes (readFormat (.obj (Json.put name (.str s) members))) ↔ fits)

theorem acceptedIff_color_or_line (s : String) : AcceptedIff s (IsColor s ∨ IsColorLine s) where
  alone parameter := exists_readColor
  checked filled := by rw [exists_readOptionalColor, isSome_ofString?_iff, or_iff_right filled]
  styles name color members made := by
    have either : name = "foreground_color" ∨ name = "background_color" := by simpa using color
    obtain ⟨foreground, background⟩ := exists_ofJson.mp made
    rw [exists_ofJson]
    rcases either with rfl | rfl
    · rw [colorFits_put_self, colorFits_put_of_ne (by decide), and_iff_left background]
    · rw [colorFits_put_self, colorFits_put_of_ne (by decide), and_iff_right foreground]
  formats filled name color members passes := by
    rw [passes_readFormat] at passes ⊢
    rw [isFormat_put_iff passes color]
    simp [IsText, isSome_ofString?_iff, filled]

/-- All places accept the same texts, and a text that is accepted is read as the colour that it spells,
its channels given as parts of 255. So the places accept nothing but colours, as long as there is no
line end behind one. -/
theorem colors_read_alike (s : String) :
    AcceptedIff s (IsColor s ∨ IsColorLine s) ∧
    (∀ parameter o, readColor parameter (.str s) = .ok o → ∃ c t, o = some c ∧ Spells t c ∧
      (s = t ∨ s = t ++ "\n") ∧ c.red ≤ 255 ∧ c.green ≤ 255 ∧ c.blue ≤ 255 ∧
      c.toJson = .obj [("red", .num (.float (Float.ofNat c.red / 255.0))),
        ("green", .num (.float (Float.ofNat c.green / 255.0))),
        ("blue", .num (.float (Float.ofNat c.blue / 255.0)))]) ∧
    (AcceptedIff s (IsColor s) ↔ ¬IsColorLine s) := by
  have all := acceptedIff_color_or_line s
  refine ⟨all, fun parameter o read => ?_, fun exact line => ?_, fun noLine => ?_⟩
  · rw [readColor] at read
    split at read
    · next c found =>
      cases read
      rcases ofString?_eq_some_iff.mp found with spelled | ⟨t, spelled, broken⟩
      · exact ⟨c, s, rfl, spelled, .inl rfl, spelled.channels.1, spelled.channels.2.1,
          spelled.channels.2.2, rfl⟩
      · exact ⟨c, t, rfl, spelled, .inr broken, spelled.channels.1, spelled.channels.2.1,
          spelled.channels.2.2, rfl⟩
    · cases read
  · have color : IsColor s := (exact.alone "color").mp ((all.alone "color").mpr (.inr line))
    exact absurd color.length (by rw [line.length]; decide)
  · rwa [or_iff_left noLine] at all

theorem mixedCase_read : ¬IsColorLine "#1a2B3c" ∧ AcceptedIff "#1a2B3c" (IsColor "#1a2B3c") ∧
    ∃ c t, some ⟨26, 43, 60⟩ = some c ∧ Spells t c ∧ ("#1a2B3c" = t ∨ "#1a2B3c" = t ++ "\n") := by
  have noLine : ¬IsColorLine "#1a2B3c" := fun line => absurd line.length (by decide)
  obtain ⟨c, t, same, spelled, shape, _⟩ :=
    (colors_read_alike "#1a2B3c").2.1 "color" (some ⟨26, 43, 60⟩) (by with_unfolding_all rfl)
  exact ⟨noLine, (colors_read_alike "#1a2B3c").2.2.mpr noLine, c, t, same, spelled, shape⟩

theorem lineEnd_accepted : readColor "color" (.str "#123456\n") = .ok (some ⟨18, 52, 86⟩) ∧
    ¬IsColor "#123456\n" ∧ ¬AcceptedIff "#123456\n" (IsColor "#123456\n") := by
  have read : readColor "color" (.str "#123456\n") = .ok (some ⟨18, 52, 86⟩) := by
    with_unfolding_all rfl
  have long : ¬IsColor "#123456\n" := fun color => absurd color.length (by decide)
  exact ⟨read, long, fun exact => long ((exact.alone "color").mp ⟨_, read⟩)⟩

end Docwright.Template
