import Docwright.Decimal.Fixed
import Docwright.Decimal.Reading

namespace Docwright

inductive Number where
  | int (n : Int)
  | float (x : Float)

namespace Number

instance : Inhabited Number := ⟨.int 0⟩
instance (n : Nat) : OfNat Number n := ⟨.int n⟩
instance : Coe Int Number := ⟨.int⟩

def toFloat : Number → Float
  | .int n => Float.ofInt n
  | .float x => x

def map₂ (onInt : Int → Int → Int) (onFloat : Float → Float → Float) : Number → Number → Number
  | .int m, .int n => .int (onInt m n)
  | a, b => .float (onFloat a.toFloat b.toFloat)

instance : Add Number := ⟨map₂ (· + ·) (· + ·)⟩
instance : Sub Number := ⟨map₂ (· - ·) (· - ·)⟩
instance : Mul Number := ⟨map₂ (· * ·) (· * ·)⟩

/-- The order of `n` and a finite double, exactly. -/
def compareInt (n : Int) (negative : Bool) (b : Decimal.Binary) : Ordering :=
  let (num, den) := b.fraction
  compare (n * den) (if negative then -(num : Int) else num)

/-- The exact order; nothing compares with a number that is not one. -/
def order? : Number → Number → Option Ordering
  | .int m, .int n => some (compare m n)
  | .float x, .float y =>
    if x < y then some .lt else if y < x then some .gt else if x == y then some .eq else none
  | .int m, .float y =>
    match Decimal.Parts.ofFloat y with
    | .nan => none
    | .infinite negative => some (if negative then .gt else .lt)
    | .finite negative b => some (compareInt m negative b)
  | .float x, .int n =>
    match Decimal.Parts.ofFloat x with
    | .nan => none
    | .infinite negative => some (if negative then .lt else .gt)
    | .finite negative b => some (compareInt n negative b).swap

def lt (a b : Number) : Bool :=
  a.order? b == some .lt

def le (a b : Number) : Bool :=
  a.order? b == some .lt || a.order? b == some .eq

def eq (a b : Number) : Bool :=
  a.order? b == some .eq

def isZero (a : Number) : Bool :=
  a.eq 0

/-- Floating point numbers have the fewest digits that read back and always show a fraction or
an exponent; the exponent starts at `1e-05` and at `1e+16`. -/
def decimalLayout : Decimal.Layout :=
  { leastPoint := -3, mostPoint := 16, wholeSuffix := ".0", exponentMark := "e",
    exponentDigits := 2, nan := "nan", infinity := "inf" }

def text : Number → String
  | .int n => toString n
  | .float x => decimalLayout.render x

end Number

end Docwright
