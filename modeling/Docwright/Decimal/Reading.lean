import Docwright.Decimal.Shortest

namespace Docwright.Decimal

/-- Beyond every double, or below half the smallest one, the exponent alone decides. -/
def Scientific.toFloat (s : Scientific) : Float :=
  let size := (digitCount s.digits : Int) + s.exponent
  if s.digits == 0 then 0.0
  else if size > 400 then 1.0 / 0.0
  else if size < -400 then 0.0
  else Float.ofScientific s.digits (s.exponent < 0) s.exponent.natAbs

end Docwright.Decimal
