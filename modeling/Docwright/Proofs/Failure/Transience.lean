import Docwright.Failure.Basic
import Docwright.Proofs.Number.Fraction

namespace Docwright.Failure

open Number

/-- What a reported failure says of itself, when its status can be compared. -/
def transient? (f : Failure) : Option Bool :=
  transientStatus? f.status

/-- A failure of which it can be told whether another try may succeed. One that is reported already
has an integer for its status, or none. -/
def Told : Failure → Prop
  | .http e => (Failure.http e).retryable? ≠ none
  | .api _ _ status _ => status = .null ∨ ∃ n : Int, status = .num (.int n)
  | _ => True

/-- A status that does not compare with numbers, also where it can be read as one. -/
def Incomparable : Json → Prop
  | .str _ | .arr _ | .obj _ => True
  | .null | .bool _ | .num _ => False

/-- A status that does not compare as the integer does that it is read as. -/
def Misread : Json → Prop
  | .num x => Number.lt 429 x = true ∧ Number.lt x 430 = true
  | status => Incomparable status

theorem transientCode_iff {x : Number} {p : Int} {d : Nat} (h : x.fraction? = some (p, d)) :
    transientCode x = true ↔ p = 429 * d ∨ 500 * d ≤ p := by
  have limited : x.eq 429 = true ↔ p = 429 * d := eq_int_iff h 429
  have server : Number.le 500 x = true ↔ 500 * d ≤ p := int_le_iff h 500
  rw [transientCode, Bool.or_eq_true, limited, server]

/-- Numbers that equal an integer are transient as the integer is. -/
theorem transientCode_of_eq {x : Number} {n : Int} (h : x.eq (.int n) = true) :
    transientCode x = transientCode (.int n) := by
  cases hx : x.fraction? with
  | none =>
    cases x with
    | int m => cases hx
    | float y =>
      simp only [fraction?] at hx
      split at hx
      · cases hx
      · next parts => simp [Number.eq, order?, parts] at h
      · next negative parts => cases negative <;> simp [Number.eq, order?, parts] at h
  | some f =>
    obtain ⟨p, d⟩ := f
    have positive := denominator_pos hx
    have same : p = n * d := (eq_int_iff hx n).mp h
    have whole : Number.fraction? (.int n) = some (n, 1) := rfl
    rw [Bool.eq_iff_iff, transientCode_iff hx, transientCode_iff whole, same,
      Int.mul_le_mul_right (by omega), Int.mul_eq_mul_right_iff (by omega)]
    omega

/-- A report of a status keeps whether it is transient, if it does not keep the status. -/
theorem transient?_ofStatus (message : String) (status : Json) (documentId : Option String) :
    (ofStatus message status documentId).transient? = transientStatus? status := by
  cases status with
  | num x =>
    have kept (n : Int) (same : x.eq (.int n) = true) :
        transientStatus? (.num (.int n)) = transientStatus? (.num x) :=
      congrArg some (transientCode_of_eq same).symm
    unfold ofStatus
    dsimp only
    split
    · next same => exact kept 404 same
    · split
      · next same => exact kept 403 same
      · split
        · next same => exact kept 401 same
        · split
          · next same => exact kept 429 same
          · rfl
  | null | bool | str | arr | obj => rfl

/-- A number read as an integer. -/
theorem transient_truncated_iff {x : Number} {p : Int} {d : Nat} (h : x.fraction? = some (p, d)) :
    ∃ q, statusCode? (.num x) = some q ∧
      (transientCode (.int q) = transientCode x ↔ ¬Misread (.num x)) := by
  have positive := denominator_pos h
  obtain ⟨q, read, above⟩ : ∃ q, statusCode? (.num x) = some q ∧
      ∀ n : Int, 0 < n → (n ≤ q ↔ n * d ≤ p) := by
    cases x with
    | int m =>
      cases h
      exact ⟨p, rfl, fun n _ => by simp⟩
    | float y => exact truncate?_of_fraction h
  refine ⟨q, read, ?_⟩
  have whole : Number.fraction? (.int q) = some (q, 1) := rfl
  have higher : Number.lt 429 x = true ↔ 429 * d < p := int_lt_iff h 429
  have lower : Number.lt x 430 = true ↔ p < 430 * d := lt_int_iff h 430
  -- the integer part is 429 on all of [429, 430), and reaches 500 where the number does
  have at429 := above 429 (by decide)
  have at430 := above 430 (by decide)
  have at500 := above 500 (by decide)
  rw [Misread, higher, lower, Bool.eq_iff_iff, transientCode_iff whole, transientCode_iff h]
  omega

/-- A finite number is read as an integer, any other is either not a number or infinite. -/
theorem retryable?_number_iff {e : ErrorResponse} {x : Number} {retried : Bool}
    (number : e.status = .num x) (told : (Failure.http e).retryable? = some retried) :
    transientCode x = retried ↔ ¬Misread (.num x) := by
  simp only [retryable?, number] at told
  cases finite : x.fraction? with
  | some f =>
    obtain ⟨q, read, agrees⟩ := transient_truncated_iff finite
    rw [read] at told
    cases told
    exact eq_comm.trans agrees
  | none =>
    cases x with
    | int m => cases finite
    | float y =>
      simp only [fraction?] at finite
      split at finite
      · cases finite
      · next parts =>
        simp only [statusCode?, truncate?, isBoundless, parts] at told
        cases told
        simp [transientCode, Misread, Number.eq, Number.le, Number.lt, order?, parts]
      · next parts =>
        simp only [statusCode?, truncate?, isBoundless, parts] at told
        cases told

theorem transientStatus?_eq_none_iff (status : Json) :
    transientStatus? status = none ↔ Incomparable status := by
  cases status <;> simp [transientStatus?, Incomparable]

theorem retryable?_http_iff {e : ErrorResponse} {retried : Bool}
    (told : (Failure.http e).retryable? = some retried) :
    transientStatus? e.status = some retried ↔ ¬Misread e.status := by
  cases given : e.status with
  | null =>
    have never : retried = false := by simpa [retryable?, given, statusCode?, isBoundless] using told
    simp [transientStatus?, Misread, Incomparable, never]
  | bool b =>
    have never : retried = false := by
      simp only [retryable?, given, statusCode?] at told
      cases b with
      | true | false => exact (Option.some.inj told).symm
    simp [transientStatus?, Misread, Incomparable, never]
  | str | arr | obj => simp [transientStatus?, Misread, Incomparable]
  | num x =>
    simp only [transientStatus?, Option.some.injEq]
    exact retryable?_number_iff given told

theorem isApi_ofStatus (message : String) (status : Json) (documentId : Option String) :
    (ofStatus message status documentId).isApi = true := by
  unfold ofStatus
  dsimp only
  repeat' split
  all_goals rfl

theorem isApi_mapped (f : Failure) (id : Option String) : (f.mapped id).isApi = true := by
  cases f with
  | http e => exact isApi_ofStatus e.message e.status id
  | _ => rfl

theorem mapped_eq_of_isApi {f : Failure} (reported : f.isApi = true) (id : Option String) :
    f.mapped id = f := by
  cases f with
  | api => rfl
  | _ => cases reported

/-- A failure and its report, each asked whether it may pass. -/
theorem exists_answer {f : Failure} (told : f.Told) (id : Option String) :
    ∃ retried, f.retryable? = some retried ∧
      ((f.mapped id).transient? = some retried ↔ ¬∃ e, f = .http e ∧ Misread e.status) ∧
      ((f.mapped id).transient? = none ↔ ∃ e, f = .http e ∧ Incomparable e.status) := by
  cases f with
  | http e =>
    obtain ⟨retried, own⟩ := Option.ne_none_iff_exists'.mp told
    refine ⟨retried, own, ?_, ?_⟩
    · simpa [mapped, transient?_ofStatus] using retryable?_http_iff own
    · simpa [mapped, transient?_ofStatus] using transientStatus?_eq_none_iff e.status
  | api kind message status documentId =>
    have answered : ∃ retried, transientStatus? status = some retried := by
      obtain rfl | ⟨n, rfl⟩ := told
      · exact ⟨_, rfl⟩
      · exact ⟨_, rfl⟩
    obtain ⟨retried, own⟩ := answered
    refine ⟨retried, own, ?_, ?_⟩
    · simpa [mapped, transient?, Failure.status] using own
    · simp [mapped, transient?, Failure.status, own]
  | _ =>
    -- other failures are reported without a status, and neither side may pass
    refine ⟨false, rfl, ?_, ?_⟩
    · simp [mapped, transient?, Failure.status, transientStatus?]
    · simp [mapped, transient?, Failure.status, transientStatus?]

/-- What is reported of a failure can be asked whether it may pass, and the answer is the failure's
own, unless its status is misread. A failure is reported once. -/
theorem transient_report_iff {f : Failure} (told : f.Told) (id id' : Option String) :
    ∃ retried, f.retryable? = some retried ∧
      ((f.mapped id).transient? = some retried ↔ ¬∃ e, f = .http e ∧ Misread e.status) ∧
      ((f.mapped id).transient? = none ↔ ∃ e, f = .http e ∧ Incomparable e.status) ∧
      (f.isApi = true → f.mapped id = f) ∧ (f.mapped id).isApi = true ∧
      (f.mapped id).mapped id' = f.mapped id := by
  obtain ⟨retried, own, same, unanswered⟩ := exists_answer told id
  have reported := isApi_mapped f id
  exact ⟨retried, own, same, unanswered, fun already => mapped_eq_of_isApi already id, reported,
    mapped_eq_of_isApi reported id'⟩

/-- The service is overloaded. -/
def overload : ErrorResponse :=
  { status := .num 503, reason := "Service Unavailable", details := .null, uri := none }

theorem overload_report_transient : (http overload).Told ∧ (http overload).retryable? = some true ∧
    ((http overload).mapped (some "doc")).transient? = some true ∧
    ((http overload).mapped (some "doc")).mapped none = (http overload).mapped (some "doc") := by
  have passes : (http overload).retryable? = some true := by decide
  have told : (http overload).Told := by simp [Told, passes]
  obtain ⟨retried, own, same, _, _, _, kept⟩ := transient_report_iff told (some "doc") none
  cases own.symm.trans passes
  refine ⟨told, passes, same.mpr ?_, kept⟩
  rintro ⟨e, given, misread⟩
  cases given
  exact absurd misread.2 (by decide)

/-- A status of the same service, given as a text. -/
def wordedOverload : ErrorResponse :=
  { status := .str "503", reason := "Error", details := .str "error", uri := none }

/-- What is reported of it cannot be asked, although another try may succeed. -/
theorem worded_report_unanswered : (http wordedOverload).Told ∧
    (http wordedOverload).retryable? = some true ∧
    ((http wordedOverload).mapped (some "doc")).transient? = none := by
  have passes : (http wordedOverload).retryable? = some true := by decide
  exact ⟨by simp [Told, passes], passes, rfl⟩

end Docwright.Failure
