/-!
Doubles taken apart: a finite one is an integer times a power of two.
-/

namespace Docwright.Decimal

/-- The magnitude `mantissa * 2 ^ exponent`. -/
structure Binary where
  mantissa : Nat
  exponent : Int
  /-- The double below is half as far away as the one above. -/
  narrowBelow : Bool

inductive Parts where
  | nan
  | infinite (negative : Bool)
  | finite (negative : Bool) (magnitude : Binary)

def Parts.ofFloat (x : Float) : Parts :=
  let bits := x.toBits.toNat
  let signBit := Nat.pow 2 63
  let hiddenBit := Nat.pow 2 52
  let negative := bits / signBit == 1
  let field := bits / hiddenBit % 2048
  let fraction := bits % hiddenBit
  if field == 2047 then (if fraction == 0 then .infinite negative else .nan)
  else if field == 0 then .finite negative ⟨fraction, -1074, false⟩
  else .finite negative ⟨hiddenBit + fraction, (field : Int) - 1075, fraction == 0 && field > 1⟩

/-- `base ^ e` as a fraction of naturals. -/
def powerFraction (base : Nat) (e : Int) : Nat × Nat :=
  if e < 0 then (1, Nat.pow base e.natAbs) else (Nat.pow base e.natAbs, 1)

/-- The magnitude as a fraction of naturals. -/
def Binary.fraction (b : Binary) : Nat × Nat :=
  let (n, d) := powerFraction 2 b.exponent
  (b.mantissa * n, d)

end Docwright.Decimal
