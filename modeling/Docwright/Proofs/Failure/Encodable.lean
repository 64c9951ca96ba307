import Docwright.Failure.Basic

namespace Docwright

namespace Text

theorem isSurrogate_of_unpairedFrom {position n k : Nat} {cs : List Char}
    (h : unpairedFrom position cs = some (n, k)) : isSurrogate n = true := by
  induction cs generalizing position with
  | nil => cases h
  | cons c cs ih =>
    rw [unpairedFrom, Option.or_eq_some_iff] at h
    rcases h with first | ⟨_, later⟩
    · obtain ⟨m, found, same⟩ := Option.map_eq_some_iff.mp first
      cases same
      unfold surrogate? at found
      split at found
      · next surrogate =>
        rwa [Option.some.inj found] at surrogate
      · cases found
    · exact ih later

end Text

@[simp]
theorem checkEncodable_false (texts : List String) : checkEncodable false texts = .ok () :=
  rfl

theorem exists_checkEncodable_eq_error_iff {marked : Bool} {texts : List String} :
    (∃ f, checkEncodable marked texts = .error f) ↔
      marked = true ∧ ∃ text ∈ texts, (Text.unpaired? text).isSome = true := by
  unfold checkEncodable
  cases marked with
  | false => simp
  | true =>
    cases found : texts.findSome? Text.unpaired? with
    | none =>
      have paired := List.findSome?_eq_none_iff.mp found
      refine iff_of_false nofun ?_
      rintro ⟨_, text, mem, unpaired⟩
      rw [paired text mem] at unpaired
      cases unpaired
    | some place =>
      obtain ⟨text, mem, unpaired⟩ := List.exists_of_findSome?_eq_some found
      exact iff_of_true ⟨_, rfl⟩ ⟨rfl, text, mem, by rw [unpaired]; rfl⟩

theorem checkEncodable_eq_ok_iff {marked : Bool} {texts : List String} :
    checkEncodable marked texts = .ok () ↔
      ¬(marked = true ∧ ∃ text ∈ texts, (Text.unpaired? text).isSome = true) := by
  rw [← exists_checkEncodable_eq_error_iff]
  cases checkEncodable marked texts <;> simp

/-- A failure that names a surrogate. -/
def Failure.Unencodable (f : Failure) : Prop :=
  ∃ surrogate position, Text.isSurrogate surrogate = true ∧ f = .unencodable surrogate position

theorem Failure.Unencodable.isApi {f : Failure} (h : f.Unencodable) : f.isApi = false := by
  obtain ⟨_, _, _, rfl⟩ := h
  rfl

theorem unencodable_of_checkEncodable {marked : Bool} {texts : List String} {f : Failure}
    (h : checkEncodable marked texts = .error f) : marked = true ∧ f.Unencodable := by
  unfold checkEncodable at h
  split at h
  · next surrogate position found =>
    cases h
    obtain ⟨text, _, unpaired⟩ := List.exists_of_findSome?_eq_some found
    exact ⟨rfl, surrogate, position, Text.isSurrogate_of_unpairedFrom unpaired, rfl⟩
  · cases h

end Docwright
