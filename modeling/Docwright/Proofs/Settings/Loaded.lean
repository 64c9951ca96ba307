import Docwright.Proofs.Replay.Writing
import Docwright.Proofs.Retry.Validity
import Docwright.Settings

namespace Docwright.Settings

open Replay (exists_of_bind)
open Retry (Policy)

def readPolicy (env : Environment) : Except Refusal (Policy Number) := do
  let maxAttempts ← readInteger env attemptsName 3
  let initialBackoff ← readNumber env initialName 1.0
  let maxBackoff ← readNumber env maxName 30.0
  let multiplier ← readNumber env multiplierName 2.0
  Policy.check { maxAttempts, initialBackoff, maxBackoff, multiplier }

theorem load_eq (env : Environment) : load env =
    (readPolicy env).map fun policy => ⟨policy, fontOr (env fontName) defaultFont⟩ := by
  change _ = (fun policy => Settings.mk policy _) <$> readPolicy env
  simp only [load, readPolicy, map_bind, bind_pure_comp]

theorem exists_float_of_readNumber {env : Environment} {name : String} {default : Float}
    {n : Number} (h : readNumber env name default = .ok n) : ∃ f, n = .float f := by
  unfold readNumber at h
  split at h
  · exact ⟨default, (Except.ok.inj h).symm⟩
  · split at h
    · exact ⟨_, (Except.ok.inj h).symm⟩
    · cases h

theorem eq_of_check {p q : Policy Number} (h : q.check = .ok p) : q = p := by
  unfold Policy.check at h
  split at h
  · cases h
  · split at h
    · cases h
    · split at h
      · cases h
      · exact Except.ok.inj h

theorem exists_doubles_of_readPolicy {env : Environment} {p : Policy Number}
    (h : readPolicy env = .ok p) :
    ∃ n a c m, p = Policy.ofDoubles n a c m ∧ p.Accepted := by
  unfold readPolicy at h
  obtain ⟨n, _, h⟩ := exists_of_bind h
  obtain ⟨initial, first, h⟩ := exists_of_bind h
  obtain ⟨most, bound, h⟩ := exists_of_bind h
  obtain ⟨factor, growth, h⟩ := exists_of_bind h
  obtain rfl := eq_of_check h
  obtain ⟨a, rfl⟩ := exists_float_of_readNumber first
  obtain ⟨c, rfl⟩ := exists_float_of_readNumber bound
  obtain ⟨m, rfl⟩ := exists_float_of_readNumber growth
  exact ⟨n, a, c, m, rfl, (Policy.check_iff _).mp h⟩

theorem exists_doubles_of_load {env : Environment} {s : Settings} (h : load env = .ok s) :
    ∃ n a c m, s.policy = Policy.ofDoubles n a c m ∧ s.policy.Accepted := by
  rw [load_eq] at h
  cases read : readPolicy env with
  | error r =>
    rw [read] at h
    cases h
  | ok p =>
    rw [read] at h
    cases h
    exact exists_doubles_of_readPolicy read

/-- Whatever the variables are set to, the policy that is loaded allows one try at least. Its other
values are within their bounds if and only if all of them are numbers. They are, and every delay of
every run is a number that is not below zero, if and only if besides no backoff of zero comes to be
grown by an infinite factor. -/
theorem loaded_valid_iff {env : Environment} {s : Settings} (loaded : load env = .ok s) :
    1 ≤ s.policy.maxAttempts ∧ (s.policy.InBounds ↔ ¬s.policy.HasNan) ∧
    (s.policy.InBounds ∧ s.policy.SoundDelays ↔ ¬s.policy.HasNan ∧ ¬s.policy.GrowsZero) := by
  obtain ⟨n, a, c, m, same, accepted⟩ := exists_doubles_of_load loaded
  refine ⟨accepted.attempts, ?_⟩
  rw [same] at accepted ⊢
  exact Policy.valid_iff accepted

/-- The factor is infinite, and both durations are as they are by default. -/
def boundless : Environment :=
  fun name => if name = multiplierName then some "inf" else none

theorem boundless_valid : ∃ s, load boundless = .ok s ∧ s.policy.multiplier.IsInfinite ∧
    s.policy.InBounds ∧ s.policy.SoundDelays := by
  obtain ⟨s, loaded, first, bound, growth⟩ : ∃ s, load boundless = .ok s ∧
      s.policy.initialBackoff = .float 1.0 ∧ s.policy.maxBackoff = .float 30.0 ∧
      s.policy.multiplier = .float (.ofBits 0x7FF0000000000000) :=
    ⟨_, by with_unfolding_all rfl, rfl, rfl, by with_unfolding_all rfl⟩
  have infinite : s.policy.multiplier.IsInfinite := growth ▸ rfl
  have numbers : ¬s.policy.HasNan := by
    rw [Policy.HasNan, first, bound, growth]
    rintro (nan | nan | nan) <;> cases nan
  have steady : ¬s.policy.GrowsZero := by
    rw [Policy.GrowsZero, first, bound]
    rintro ⟨_, ⟨zero, _⟩ | ⟨zero, _⟩⟩ <;> cases zero
  exact ⟨s, loaded, infinite, (loaded_valid_iff loaded).2.2.mpr ⟨numbers, steady⟩⟩

/-- The first backoff is read as a number, but is none. -/
def unordered : Environment :=
  fun name => if name = initialName then some "nan" else none

theorem unordered_accepted : ∃ s, load unordered = .ok s ∧
    Number.lt s.policy.initialBackoff 0 = false ∧ Number.le 0 s.policy.initialBackoff = false :=
  ⟨_, by with_unfolding_all rfl, by with_unfolding_all rfl, by with_unfolding_all rfl⟩

end Docwright.Settings
