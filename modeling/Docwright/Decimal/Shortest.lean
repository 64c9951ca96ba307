import Docwright.Decimal.Binary

/-!
The fewest decimal digits that read back to a double.

The reals that round to a double form an interval around it, whose ends belong to it when the
mantissa is even. Grids of one, two, and more digits are tried in turn; on the first one with a
point in the interval the point nearest to the double is taken.
-/

namespace Docwright.Decimal

/-- The number `digits * 10 ^ exponent`. -/
structure Scientific where
  digits : Nat
  exponent : Int

def digitCount (n : Nat) : Nat :=
  (Nat.repr n).length

/-- The least `k` with the magnitude below `10 ^ k`, for a magnitude that is a double. -/
def Binary.scale (b : Binary) : Int :=
  let (n, d) := b.fraction
  (digitCount (n * Nat.pow 10 400 / d) : Int) - 400

/-- Whether `digits` on the grid `10 ^ e` rounds to the magnitude. -/
def Binary.holds (b : Binary) (digits : Nat) (e : Int) : Bool :=
  let (tenUp, tenDown) := powerFraction 10 e
  let (twoUp, twoDown) := powerFraction 2 (b.exponent - 2)
  let point := digits * tenUp * twoDown
  let below := (4 * b.mantissa - if b.narrowBelow then 1 else 2) * twoUp * tenDown
  let above := (4 * b.mantissa + 2) * twoUp * tenDown
  if b.mantissa % 2 == 0 then below ≤ point && point ≤ above else below < point && point < above

/-- The point of the grid `10 ^ e` that rounds to the magnitude and is nearest to it. -/
def Binary.onGrid? (b : Binary) (e : Int) : Option Nat :=
  let (tenUp, tenDown) := powerFraction 10 e
  let (n, d) := b.fraction
  let floor := n * tenDown / (d * tenUp)
  let rest := n * tenDown % (d * tenUp)
  let lower := b.holds floor e
  let upper := b.holds (floor + 1) e
  if lower && upper then
    let tie := 2 * rest == d * tenUp
    if 2 * rest < d * tenUp || (tie && floor % 2 == 0) then some floor else some (floor + 1)
  else if lower then some floor
  else if upper then some (floor + 1)
  else none

/-- Tens are moved from the digits into the exponent. -/
def Scientific.normal (s : Scientific) : Nat → Scientific
  | 0 => s
  | fuel + 1 =>
    if s.digits != 0 && s.digits % 10 == 0 then Scientific.normal ⟨s.digits / 10, s.exponent + 1⟩ fuel
    else s

/-- Seventeen digits always suffice. -/
def Binary.shortest (b : Binary) : Scientific :=
  if b.mantissa == 0 then ⟨0, 0⟩
  else
    let k := b.scale
    let hit := (List.range 17).findSome? fun (n : Nat) =>
      let e := k - (n + 1)
      (b.onGrid? e).map fun digits => Scientific.normal ⟨digits, e⟩ 20
    hit.getD ⟨0, 0⟩

end Docwright.Decimal
