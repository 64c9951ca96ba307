import Docwright.Proofs.Markdown.Fonts
import Docwright.Proofs.Settings.Loaded

namespace Docwright.Settings

/-- The environment with some variables taken out of it. -/
def without (env : Environment) (unset : List String) : Environment :=
  fun name => if name ∈ unset then none else env name

/-- The variable is set, to nothing but blanks. -/
def IsBlankIn (env : Environment) (name : String) : Prop :=
  ∃ s, env name = some s ∧ Text.allBlank s = true

/-- What a converter with the settings of an environment asks for to insert a Markdown text. -/
def converted (env : Environment) (text : String) (start : Int) : Except Refusal (List Json) :=
  (load env).bind fun s => (Markdown.compile s.codeFont text start).map Edit.requests

/-- Settings can be loaded, and their font is a text of blanks that is taken out. -/
def FontLost (env : Environment) (unset : List String) : Prop :=
  fontName ∈ unset ∧ env fontName ≠ some "" ∧ ∃ s, load env = .ok s

/-- The text has code that is written: some edit sets a font. -/
def SetsFont (text : String) (start : Int) : Prop :=
  ∃ ops, Markdown.compile defaultFont text start = .ok ops ∧ ∃ op ∈ ops, op.SetsFont

section

variable {env : Environment} {unset : List String}

/-- A font that is taken out leaves the default one. -/
theorem FontLost.default (lost : FontLost env unset) :
    fontOr (without env unset fontName) defaultFont = defaultFont := by
  simp only [without, lost.1, ↓reduceIte, fontOr]

variable (blank : ∀ name ∈ unset, IsBlankIn env name)

include blank

theorem given_without (name : String) : given (without env unset) name = given env name := by
  by_cases out : name ∈ unset
  · obtain ⟨s, set, blanks⟩ := blank name out
    simp [given, without, out, set, Option.filter_some, blanks]
  · simp only [given, without, out, ↓reduceIte]

theorem readPolicy_without : readPolicy (without env unset) = readPolicy env := by
  unfold readPolicy readInteger readNumber
  simp only [given_without blank]

theorem fontOr_without_eq_iff : fontOr (without env unset fontName) defaultFont =
    fontOr (env fontName) defaultFont ↔ (fontName ∈ unset → env fontName = some "") := by
  by_cases out : fontName ∈ unset
  · obtain ⟨s, set, blanks⟩ := blank fontName out
    -- the default font is no text of blanks: what is lost does not come back by chance
    have other : s ≠ defaultFont := by
      rintro rfl
      revert blanks
      decide
    by_cases empty : s = ""
    · simp [without, out, set, empty, fontOr]
    · simp [without, out, set, empty, fontOr, other.symm]
  · simp [without, out]

theorem fontLost_iff {p : Retry.Policy Number} (read : readPolicy env = .ok p) :
    FontLost env unset ↔ fontOr (without env unset fontName) defaultFont ≠
      fontOr (env fontName) defaultFont := by
  have loaded : ∃ s, load env = .ok s := ⟨_, by rw [load_eq, read]; rfl⟩
  rw [FontLost, ne_eq (fontOr _ _), fontOr_without_eq_iff blank]
  simp only [loaded, and_true, Classical.not_imp, ne_eq]

theorem load_without_eq_iff : load (without env unset) = load env ↔ ¬FontLost env unset := by
  cases read : readPolicy env with
  | error r =>
    have refused : load env = .error r := by rw [load_eq, read]; rfl
    have same : load (without env unset) = .error r := by
      rw [load_eq, readPolicy_without blank, read]; rfl
    simp [FontLost, refused, same]
  | ok p =>
    rw [fontLost_iff blank read, load_eq, load_eq, readPolicy_without blank, read]
    simp [Except.map]

theorem converted_without_eq_iff (text : String) (start : Int) :
    converted (without env unset) text start = converted env text start ↔
      (FontLost env unset → ¬SetsFont text start) := by
  by_cases lost : FontLost env unset
  · cases read : readPolicy env with
    | error r =>
      obtain ⟨s, loaded⟩ := lost.2.2
      rw [load_eq, read] at loaded
      cases loaded
    | ok p =>
      have other := (fontLost_iff blank read).mp lost
      rw [lost.default] at other
      have own : converted env text start =
          (Markdown.compile (fontOr (env fontName) defaultFont) text start).map Edit.requests := by
        rw [converted, load_eq, read]; rfl
      have default : converted (without env unset) text start =
          (Markdown.compile defaultFont text start).map Edit.requests := by
        rw [converted, load_eq, readPolicy_without blank, read, lost.default]; rfl
      rw [own, default, eq_comm, Markdown.requests_compile_eq_iff]
      simp only [lost, other.symm, imp_false, forall_const, SetsFont]
  · have same := (load_without_eq_iff blank).mpr lost
    simp only [converted, same, lost, false_implies]

end

/-- Whether blank variables are set makes no difference to the policy, or to the refusal of it. It
makes none to the settings and the edits either, unless a font of blanks is lost by unsetting it:
then the settings differ, and so do the edits of exactly the texts in which a font is set. -/
theorem blanks_unset_iff (env : Environment) (unset : List String)
    (blank : ∀ name ∈ unset, IsBlankIn env name) :
    (load (without env unset)).map Settings.policy = (load env).map Settings.policy ∧
    ((load (without env unset) = load env ∧ ∀ text start,
      converted (without env unset) text start = converted env text start) ↔
        ¬FontLost env unset) ∧
    ∀ text start, converted (without env unset) text start = converted env text start ↔
      (FontLost env unset → ¬SetsFont text start) := by
  refine ⟨?_, ⟨fun same => (load_without_eq_iff blank).mp same.1, fun kept => ?_⟩,
    converted_without_eq_iff blank⟩
  · rw [load_eq, load_eq, readPolicy_without blank]
    cases readPolicy env <;> rfl
  · exact ⟨(load_without_eq_iff blank).mpr kept, fun text start =>
      (converted_without_eq_iff blank text start).mpr fun lost => absurd lost kept⟩

/-- Two variables are blank, the font one of them, and another one is set. -/
def halfSet : Environment := fun name =>
  if name = attemptsName then some " \t" else if name = fontName then some ""
  else if name = multiplierName then some "3" else none

theorem halfSet_blanks_unset : (∀ name ∈ [attemptsName, fontName], IsBlankIn halfSet name) ∧
    (∃ s, load halfSet = .ok s) ∧
    load (without halfSet [attemptsName, fontName]) = load halfSet ∧ ∀ text start,
      converted (without halfSet [attemptsName, fontName]) text start =
        converted halfSet text start := by
  have blank : ∀ name ∈ [attemptsName, fontName], IsBlankIn halfSet name := by
    rintro name (_ | ⟨_, _ | ⟨_, ⟨⟩⟩⟩)
    · exact ⟨" \t", rfl, by decide⟩
    · exact ⟨"", rfl, by decide⟩
  have kept : ¬FontLost halfSet [attemptsName, fontName] := fun lost => lost.2.1 rfl
  exact ⟨blank, ⟨_, by with_unfolding_all rfl⟩, (blanks_unset_iff halfSet _ blank).2.1.mpr kept⟩

/-- The font is a space, and nothing else is set. -/
def spacedFont : Environment :=
  fun name => if name = fontName then some " " else none

theorem spacedFont_kept : IsBlankIn spacedFont fontName ∧
    (load spacedFont).map Settings.codeFont = .ok " " ∧
    (load (without spacedFont [fontName])).map Settings.codeFont = .ok "Courier New" ∧
    converted (without spacedFont [fontName]) "\ta" 1 ≠ converted spacedFont "\ta" 1 := by
  have isBlank : IsBlankIn spacedFont fontName := ⟨" ", rfl, by decide⟩
  have lost : FontLost spacedFont [fontName] :=
    ⟨List.mem_singleton_self _, by decide, ⟨_, by with_unfolding_all rfl⟩⟩
  have code : SetsFont "\ta" 1 :=
    ⟨[.insertText 1 "a\n",
        .styleText ⟨1, 3, by decide⟩ (.ofFont defaultFont) "weightedFontFamily",
        .insertText 3 "\n"],
      by with_unfolding_all rfl, _, List.mem_cons_of_mem _ List.mem_cons_self, rfl⟩
  refine ⟨isBlank, by with_unfolding_all rfl, by with_unfolding_all rfl, fun same => ?_⟩
  exact (converted_without_eq_iff (List.forall_mem_singleton.mpr isBlank) "\ta" 1).mp same lost code

end Docwright.Settings
