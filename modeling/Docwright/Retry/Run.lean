import Docwright.Failure.Basic
import Docwright.Retry.Policy

namespace Docwright.Retry

/-- What happens while a call is tried. -/
inductive Event (δ : Type) where
  | called
  | retrying (attempt : Nat) (failure : Failure) (delay : δ)
  | slept (delay : δ)
  | gaveUp (attempt : Nat) (failure : Failure)

/-- How a call went: its result, the state it leaves, the draws taken so far, and the events. -/
structure Run (δ α σ : Type) where
  result : Except Failure α
  state : σ
  draws : Nat
  events : List (Event δ)

variable {δ α σ : Type} [Delay δ]

/-- Tries a call, and then again up to `left` times. `draw n` is the draw number `n`. -/
def tryFrom (p : Policy δ) (draw : Nat → δ) (call : σ → Except Failure α × σ) :
    (left attempt : Nat) → (backoff : δ) → (draws : Nat) → (state : σ) → Run δ α σ
  | left, attempt, backoff, draws, state =>
    match call state with
    | (.ok a, next) => ⟨.ok a, next, draws, [.called]⟩
    | (.error e, next) =>
      match e.retryable? with
      | none => ⟨.error (.unordered e.status), next, draws, [.called]⟩
      | some false => ⟨.error e, next, draws, [.called]⟩
      | some true =>
        match left with
        | 0 => ⟨.error e, next, draws, [.called, .gaveUp attempt e]⟩
        | left + 1 =>
          let delay := shortened backoff (draw draws)
          let rest := tryFrom p draw call left (attempt + 1)
            (delayAfter backoff p.maxBackoff p.multiplier)
            (if takesDraw backoff then draws + 1 else draws) next
          let waited := if Delay.lt Delay.zero delay then [Event.slept delay] else []
          { rest with events := .called :: .retrying attempt e delay :: (waited ++ rest.events) }

def run (p : Policy δ) (draw : Nat → δ) (call : σ → Except Failure α × σ) (draws : Nat)
    (state : σ) : Run δ α σ :=
  tryFrom p draw call (p.maxAttempts - 1).toNat 1 p.initialBackoff draws state

/-- A function of which every call is tried again, with its own policy and name for log lines, if
it has been given them. -/
structure Retried (ι α σ : Type) where
  name : String
  function : ι → σ → Except Failure α × σ
  givenPolicy : Option (Policy Number) := none
  givenOperation : Option String := none

namespace Retried

variable {ι : Type} (f : Retried ι α σ) (draw : Nat → Number)

def policy : Policy Number :=
  f.givenPolicy.getD .standard

/-- An empty name is none. -/
def operation : String :=
  match f.givenOperation with
  | some name => if name = "" then f.name else name
  | none => f.name

def call (args : ι) (draws : Nat) (state : σ) : Run Number α σ :=
  run f.policy draw (f.function args) draws state

/-- One call after the other. -/
def calls : List ι → (draws : Nat) → (state : σ) → List (Run Number α σ)
  | [], _, _ => []
  | args :: rest, draws, state =>
    let first := f.call draw args draws state
    first :: calls rest first.draws first.state

end Retried

end Docwright.Retry
