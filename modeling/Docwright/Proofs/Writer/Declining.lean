import Docwright.Proofs.Template.Validated
import Docwright.Writer.Content
import Docwright.Writer.Section
import Docwright.Writer.Structure

namespace Docwright.Writer

open Style

/-- The failure speaks against the arguments. -/
def Unfit : Failure → Prop
  | .validation _ | .style _ | .template .. => True
  | _ => False

theorem unfit_checkText {text : String} {f : Failure} (h : checkText text = .error f) : Unfit f := by
  unfold checkText at h
  split at h <;> cases h
  trivial

theorem unfit_explain {α : Type} {checked : Except Refusal α} {f : Failure} (h : explain checked = .error f) :
    Unfit f := by
  cases checked <;> cases h
  trivial

theorem unfit_readStyle {style : Json} {f : Failure} (h : readStyle style = .error f) : Unfit f := by
  unfold readStyle at h
  cases hr : (Template.readFormat (if style.truthy then style else .obj [])).toExcept with
  | error findings =>
    rw [hr] at h
    cases h
    trivial
  | ok format =>
    rw [hr] at h
    cases h

theorem unfit_checkRange {start stop : Int} {f : Failure} (h : checkRange start stop = .error f) :
    Unfit f := by
  unfold checkRange at h
  split at h <;> cases h
  trivial

theorem unfit_readFormat {alignment : String} {format : ParagraphFormat} {f : Failure}
    (h : readFormat alignment format = .error f) : Unfit f := by
  unfold readFormat at h
  cases ha : explain (TextAlignment.read alignment) with
  | error g =>
    rw [ha] at h
    cases h
    exact unfit_explain ha
  | ok read =>
    rw [ha] at h
    dsimp only [bind, Except.bind] at h
    split at h <;> cases h
    trivial

theorem unfit_readSheet {text : String} {f : Failure} (h : readSheet text = .error f) : Unfit f := by
  unfold readSheet at h
  cases hr : Csv.records text with
  | error e =>
    rw [hr] at h
    cases h
    trivial
  | ok records =>
    rw [hr] at h
    dsimp only [Except.mapError, bind, Except.bind] at h
    split at h <;> cases h
    trivial

theorem unfit_requireHeading {heading : String} {f : Failure}
    (h : requireHeading heading = .error f) : Unfit f := by
  unfold requireHeading at h
  split at h <;> cases h
  trivial

/-- A value is not read because of a long integer in it, or there is a reason why it is unfit. -/
def Declined (given : Json) (f : Failure) : Prop :=
  Unfit f ∨ ∃ digits, Template.HoldsLongInteger given digits ∧ f = .refused (.longInteger digits)

/-- What a text holds is read as what is given by itself. -/
theorem readRequests_of_text {s : String} {value : Json} (h : readRequestText s = .ok value)
    (plain : ∀ t, value ≠ .str t) : readRequests (.str s) = readRequests value := by
  unfold readRequests
  simp only [h]

theorem declined_readRequestText {s : String} {f : Failure} (h : readRequestText s = .error f) :
    Declined (.str s) f := by
  unfold readRequestText at h
  split at h
  · cases h
  · cases h
  · cases h
    exact .inl trivial
  · next digits read =>
    cases h
    exact .inr ⟨digits, ⟨s, rfl, read⟩, rfl⟩

theorem unfit_readRequests {given : Json} {f : Failure} (plain : ∀ t, given ≠ .str t)
    (h : readRequests given = .error f) : Unfit f := by
  cases given with
  | str t => exact absurd rfl (plain t)
  | arr requests =>
    dsimp only [readRequests, bind, Except.bind] at h
    split at h
    · cases h
      trivial
    · split at h <;> cases h
      trivial
  | null | bool | num | obj =>
    cases h
    trivial

theorem declined_readRequests {given : Json} {f : Failure} (h : readRequests given = .error f) :
    Declined given f := by
  cases given with
  | str s =>
    cases read : readRequestText s with
    | ok value =>
      by_cases text : ∃ t, value = .str t
      · obtain ⟨t, rfl⟩ := text
        simp only [readRequests, read] at h
        cases h
        exact .inl trivial
      · rw [readRequests_of_text read fun t same => text ⟨t, same⟩] at h
        exact .inl (unfit_readRequests (fun t same => text ⟨t, same⟩) h)
    | error g =>
      simp only [readRequests, read] at h
      cases h
      exact declined_readRequestText read
  | null | bool | num | arr | obj =>
    refine .inl (unfit_readRequests ?_ h)
    intro t same
    cases same

theorem declined_draft {given : Json} {f : Failure} (h : Template.Draft.ofJson given = .error f) :
    Declined given f := by
  cases Template.Draft.unaccepted h with
  | long long => exact .inr ⟨_, long, rfl⟩
  | refused => exact .inl trivial

end Docwright.Writer
