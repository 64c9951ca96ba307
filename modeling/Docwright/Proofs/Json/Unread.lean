import Docwright.Json.Reader
import Mathlib.Logic.Basic

namespace Docwright.Json

variable {α β : Type}

/-- The reading does not give up because of an integer that is short enough. -/
def Patient (e : Except Fault α) : Prop :=
  ∀ digits, e = .error (.longInteger digits) → Number.maxDigits < digits

theorem patient_ok (a : α) : Patient (.ok a : Except Fault α) :=
  fun _ => nofun

theorem patient_expected (what : Expected) (left : Nat) :
    Patient (.error (.expected what left) : Except Fault α) :=
  fun _ => nofun

theorem patient_unpaired : Patient (.error .unpaired : Except Fault α) :=
  fun _ => nofun

theorem Patient.bind {x : Except Fault α} {f : α → Except Fault β} (hx : Patient x)
    (hf : ∀ a, Patient (f a)) : Patient (x >>= f) := by
  cases x with
  | ok a => exact hf a
  | error fault =>
    intro digits h
    cases h
    exact hx digits rfl

theorem patient_readHex4 (letter cs : List Char) : Patient (readHex4 letter cs) := by
  unfold readHex4
  split
  · exact patient_expected _ _
  · split
    · exact patient_ok _
    · exact patient_expected _ _

section

variable (marking : Bool)

theorem patient_character (n : Nat) : Patient (character marking n) := by
  unfold character
  split
  · exact patient_ok _
  · split
    · exact patient_unpaired
    · exact patient_ok _

theorem patient_readUnicode (letter cs : List Char) : Patient (readUnicode marking letter cs) := by
  have alone (n : Nat) (rest : List Char) :
      Patient (character marking n >>= fun c => pure (c, rest)) :=
    (patient_character marking n).bind fun _ => patient_ok _
  apply (patient_readHex4 letter cs).bind
  rintro ⟨high, rest⟩
  simp only
  split
  · split
    · apply (patient_readHex4 _ _).bind
      intro low
      split <;> exact alone _ _
    · exact alone _ _
  · exact alone _ _

theorem patient_readString (opening : List Char) (fuel : Nat) (cs acc : List Char) :
    Patient (readString marking opening fuel cs acc) := by
  fun_induction readString marking opening fuel cs acc with
  | case1 | case2 | case4 | case7 | case8 => exact patient_expected _ _
  | case3 => exact patient_ok _
  | case5 _ rest _ ih =>
    apply (patient_readUnicode marking ('u' :: rest) rest).bind
    rintro ⟨c, after⟩
    exact ih c after
  | case6 _ _ _ _ _ _ _ ih => exact ih
  | case9 _ _ _ _ _ _ _ _ _ ih => exact (patient_character marking _).bind ih

end

theorem long_of_readMagnitude {negative : Bool} {cs : List Char} {digits : Nat}
    (h : readMagnitude negative cs = some (.error digits)) : Number.maxDigits < digits := by
  -- the digits are the same in every branch, so that only the branches are told apart
  obtain ⟨_, h⟩ := Option.ite_none_left_eq_some.mp h
  obtain ⟨_, h⟩ | ⟨_, h⟩ := ite_eq_iff.mp h
  · obtain ⟨long, h⟩ | ⟨_, h⟩ := ite_eq_iff.mp (Option.some.inj h)
    · cases h
      exact long
    · cases h
  · cases h

theorem long_of_readNumber {cs : List Char} {digits : Nat}
    (h : readNumber cs = some (.error digits)) : Number.maxDigits < digits := by
  unfold readNumber at h
  split at h
  · exact long_of_readMagnitude h
  · exact long_of_readMagnitude h

theorem patient_readers (marking : Bool) (fuel : Nat) :
    (∀ cs, Patient (readValue marking fuel cs)) ∧
    (∀ cs acc, Patient (readItems marking fuel cs acc)) ∧
    ∀ cs acc, Patient (readMembers marking fuel cs acc) := by
  induction fuel with
  | zero => exact ⟨fun _ => patient_expected _ _, fun _ _ => patient_expected _ _,
      fun _ _ => patient_expected _ _⟩
  | succ fuel ih =>
    obtain ⟨value, items, members⟩ := ih
    refine ⟨?_, ?_, ?_⟩
    · intro cs
      unfold readValue
      split
      · apply (patient_readString _ _ _ _ _).bind
        exact fun _ => patient_ok _
      · split
        · exact patient_ok _
        · exact items _ _
      · split
        · exact patient_ok _
        · exact members _ _
      · split
        · exact patient_ok _
        · split
          · exact patient_ok _
          · next found =>
            intro digits h
            cases h
            exact long_of_readNumber found
          · exact patient_expected _ _
    · intro cs acc
      unfold readItems
      apply (value cs).bind
      rintro ⟨v, after⟩
      simp only
      split
      · exact patient_ok _
      · exact items _ _
      · exact patient_expected _ _
    · intro cs acc
      unfold readMembers
      split
      · apply (patient_readString _ _ _ _ _).bind
        rintro ⟨name, afterName⟩
        simp only
        split
        · apply (value _).bind
          rintro ⟨v, after⟩
          simp only
          split
          · exact patient_ok _
          · exact members _ _
          · exact patient_expected _ _
        · exact patient_expected _ _
      · exact patient_expected _ _

theorem patient_readText (marking : Bool) (cs : List Char) : Patient (readText marking cs) := by
  unfold readText
  split
  · exact patient_expected _ _
  · apply ((patient_readers marking _).1 _).bind
    rintro ⟨v, after⟩
    simp only
    split
    · exact patient_ok _
    · exact patient_expected _ _

theorem long_of_unread {e : Except Fault Json} (patient : Patient e) {cs : List Char} {value : Json}
    {digits : Nat} (h : e.mapError (Fault.unread cs value) = .error (.longInteger digits)) :
    Number.maxDigits < digits := by
  cases e with
  | ok v => cases h
  | error fault =>
    cases fault with
    | expected | unpaired => cases h
    | longInteger =>
      cases h
      exact patient _ rfl

/-- A text is given up only because of an integer that is too long. -/
theorem long_of_ofText {s : String} {digits : Nat} (h : ofText s = .error (.longInteger digits)) :
    Number.maxDigits < digits := by
  unfold ofText at h
  cases hr : (readText true s.toList).mapError (Fault.unread s.toList .null) with
  | error unread =>
    simp only [hr] at h
    cases h
    exact long_of_unread (patient_readText true s.toList) hr
  | ok value =>
    simp only [hr] at h
    exact long_of_unread (patient_readText false s.toList) h

/-- The start of an object, up to the value of its member `title`. -/
def titleStart : List Char :=
  ['\x7b', '"', 't', 'i', 't', 'l', 'e', '"', ':']

def onesAndBrace (n : Nat) : List Char :=
  List.replicate n '1' ++ ['\x7d']

/-- An object whose title is an integer of `n` ones. -/
def onesTitle (n : Nat) : String :=
  String.ofList (titleStart ++ onesAndBrace n)

variable {n : Nat} (long : Number.maxDigits < n)

include long

theorem readNumber_ones : readNumber (onesAndBrace n) = some (.error n) := by
  obtain ⟨m, rfl⟩ : ∃ m, n = m + 1 := ⟨n - 1, by omega⟩
  have digits : (onesAndBrace (m + 1)).takeWhile Char.isDigit = List.replicate (m + 1) '1' := by
    rw [onesAndBrace, List.takeWhile_append_of_pos]
    · exact List.append_nil _
    · intro c hc
      rw [List.eq_of_mem_replicate hc]
      rfl
  have magnitude : readNumber (onesAndBrace (m + 1)) = readMagnitude false (onesAndBrace (m + 1)) :=
    rfl
  rw [magnitude]
  rw [onesAndBrace, List.replicate_succ, List.cons_append] at digits ⊢
  simp only [readMagnitude, digits]
  simp [readFraction, readExponent, long]

theorem readValue_ones (fuel : Nat) :
    readValue true (fuel + 1) (onesAndBrace n) = .error (.longInteger n) := by
  have number := readNumber_ones long
  obtain ⟨m, rfl⟩ : ∃ m, n = m + 1 := ⟨n - 1, by omega⟩
  have noWord : readWord (onesAndBrace (m + 1)) = none := rfl
  rw [onesAndBrace, List.replicate_succ, List.cons_append] at number noWord ⊢
  simp only [readValue, noWord, number]
  rfl

theorem readTitle_ones (fuel : Nat) :
    readValue true (fuel + 9) (titleStart ++ onesAndBrace n) = .error (.longInteger n) := by
  have name : readString true (titleStart.drop 1 ++ onesAndBrace n) (fuel + 7)
      (titleStart.drop 2 ++ onesAndBrace n) [] = .ok ("title", ':' :: onesAndBrace n) := rfl
  have space : skipSpace (onesAndBrace n) = onesAndBrace n := by
    obtain ⟨m, rfl⟩ : ∃ m, n = m + 1 := ⟨n - 1, by omega⟩
    rfl
  have value := readValue_ones long (fuel + 6)
  rw [← space] at value
  show readMembers true (fuel + 8) (titleStart.drop 1 ++ onesAndBrace n) [] = _
  show readString true (titleStart.drop 1 ++ onesAndBrace n) (fuel + 7)
    (titleStart.drop 2 ++ onesAndBrace n) [] >>= _ = _
  rw [name]
  show readValue true (fuel + 7) (skipSpace (onesAndBrace n)) >>= _ = _
  rw [value]
  rfl

/-- The text is not read, although it is well-formed. -/
theorem ofText_onesTitle : ofText (onesTitle n) = .error (.longInteger n) := by
  have text : (onesTitle n).toList = titleStart ++ onesAndBrace n := String.toList_ofList
  have fuel : 2 * (onesTitle n).toList.length + 1 = 2 * n + 12 + 9 := by
    simp only [text, titleStart, onesAndBrace, List.length_append, List.length_cons,
      List.length_nil, List.length_replicate]
    omega
  have value : readValue true (2 * n + 12 + 9) (skipSpace (onesTitle n).toList) =
      .error (.longInteger n) := by
    rw [text]
    exact readTitle_ones long (2 * n + 12)
  have marked : (onesTitle n).toList.head? = some '\x7b' := by
    rw [text]
    rfl
  have unread : readText true (onesTitle n).toList = .error (.longInteger n) := by
    rw [readText, if_neg (by rw [marked]; decide), fuel, value]
    rfl
  rw [ofText, unread]
  rfl

end Docwright.Json
