import Docwright.Decimal.Layout

namespace Docwright.Decimal

/-- The nearest natural to `n / d`; a half goes to the even neighbour. -/
def roundDiv (n d : Nat) : Nat :=
  let q := n / d
  let r := n % d
  if 2 * r < d then q else if d < 2 * r then q + 1 else q + q % 2

def placed (places n : Nat) : String :=
  let ds := padLeft (places + 1) (Nat.repr n)
  String.ofList (ds.toList.take (ds.length - places)) ++ "." ++
    String.ofList (ds.toList.drop (ds.length - places))

def fixed (places : Nat) (x : Float) : String :=
  match Parts.ofFloat x with
  | .nan => "nan"
  | .infinite negative => if negative then "-inf" else "inf"
  | .finite negative b =>
    let (n, d) := b.fraction
    (if negative then "-" else "") ++ placed places (roundDiv (n * Nat.pow 10 places) d)

end Docwright.Decimal
