import Docwright.Number
import Docwright.Refusal

/-!
Retry policies: how often a call is tried, and how long it is waited between tries. Delays grow by
a factor up to a bound; each one is shortened at random to between one half and all of it.
-/

namespace Docwright.Retry

/-- The arithmetic of delays. -/
class Delay (δ : Type) where
  zero : δ
  half : δ
  one : δ
  add : δ → δ → δ
  mul : δ → δ → δ
  lt : δ → δ → Bool
  le : δ → δ → Bool

instance : Delay Number where
  zero := .float 0.0
  half := .float 0.5
  one := 1
  add := (· + ·)
  mul := (· * ·)
  lt := Number.lt
  le := Number.le

structure Policy (δ : Type) where
  maxAttempts : Int
  initialBackoff : δ
  maxBackoff : δ
  multiplier : δ

namespace Policy

variable {δ : Type} [Delay δ]

/-- A policy is refused for the first of its values that is out of range. -/
def check (p : Policy δ) : Except Refusal (Policy δ) :=
  if p.maxAttempts < 1 then .error .noAttempts
  else if Delay.lt p.initialBackoff Delay.zero || Delay.lt p.maxBackoff Delay.zero then
    .error .negativeBackoff
  else if Delay.lt p.multiplier Delay.one then .error .shrinkingBackoff
  else .ok p

def standard : Policy Number :=
  { maxAttempts := 3, initialBackoff := .float 1.0, maxBackoff := .float 30.0,
    multiplier := .float 2.0 }

end Policy

variable {δ : Type} [Delay δ]

/-- The delay after `current`. -/
def delayAfter (current maxBackoff multiplier : δ) : δ :=
  let grown := Delay.mul current multiplier
  if Delay.lt maxBackoff grown then maxBackoff else grown

/-- A delay shortened by a draw `u` between zero and one. A delay that is not above zero is none,
and takes no draw. -/
def shortened (delay u : δ) : δ :=
  if Delay.le delay Delay.zero then Delay.zero
  else Delay.mul delay (Delay.add Delay.half (Delay.mul Delay.half u))

/-- Whether a delay takes a draw. -/
def takesDraw (delay : δ) : Bool :=
  !Delay.le delay Delay.zero

end Docwright.Retry
