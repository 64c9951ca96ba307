import Docwright.Decimal.Shortest

namespace Docwright.Decimal

/-- The choices of an output format for floating point numbers. -/
structure Layout where
  /-- Positional from this place of the point on. -/
  leastPoint : Int
  /-- Positional up to this place of the point. -/
  mostPoint : Int
  /-- Written after a number without fraction. -/
  wholeSuffix : String
  exponentMark : String
  exponentDigits : Nat
  nan : String
  infinity : String

def padLeft (width : Nat) (s : String) : String :=
  String.ofList (List.replicate (width - s.length) '0') ++ s

/-- The point stands after `digits.length + exponent` digits. -/
def Layout.place (f : Layout) (s : Scientific) : String :=
  let ds := (Nat.repr s.digits).toList
  let point : Int := if s.digits == 0 then 1 else ds.length + s.exponent
  if f.leastPoint ≤ point && point ≤ f.mostPoint then
    if point ≤ 0 then
      "0." ++ String.ofList (List.replicate point.natAbs '0' ++ ds)
    else if ds.length ≤ point.toNat then
      String.ofList (ds ++ List.replicate (point.toNat - ds.length) '0') ++ f.wholeSuffix
    else
      String.ofList (ds.take point.toNat) ++ "." ++ String.ofList (ds.drop point.toNat)
  else
    let fraction := if ds.length ≤ 1 then "" else "." ++ String.ofList (ds.drop 1)
    let e := point - 1
    String.ofList (ds.take 1) ++ fraction ++ f.exponentMark ++ (if e < 0 then "-" else "+") ++
      padLeft f.exponentDigits (Nat.repr e.natAbs)

def Layout.render (f : Layout) (x : Float) : String :=
  match Parts.ofFloat x with
  | .nan => f.nan
  | .infinite negative => (if negative then "-" else "") ++ f.infinity
  | .finite negative b => (if negative then "-" else "") ++ f.place b.shortest

end Docwright.Decimal
