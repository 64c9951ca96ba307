import Docwright.Number.Reading
import Docwright.Template.Checked

/-!
The plain values of a template. Texts have to be texts; truth values and integers may be written in
other ways that leave no doubt.
-/

namespace Docwright.Template

open Checked

def readString : Json → Checked String
  | .str s => .ok s
  | _ => fail "Input should be a valid string"

def trueWords : List String := ["1", "t", "y", "on", "yes", "true"]
def falseWords : List String := ["0", "f", "n", "no", "off", "false"]

def unclearBool : Checked Bool :=
  fail "Input should be a valid boolean, unable to interpret input"

/-- Zero, one and the usual words, in any case, are truth values too. -/
def readBool : Json → Checked Bool
  | .bool b => .ok b
  | .num (.int n) => if n = 0 then .ok false else if n = 1 then .ok true else unclearBool
  | .num (.float x) =>
    if x == 0.0 then .ok false else if x == 1.0 then .ok true
    else fail "Input should be a valid boolean"
  | .str s =>
    let word := s.map Char.toLower
    if falseWords.contains word then .ok false
    else if trueWords.contains word then .ok true else unclearBool
  | _ => fail "Input should be a valid boolean"

/-- The blanks that may stand around an integer. -/
def isIntMargin (c : Char) : Bool :=
  Text.isBlank c && !(28 ≤ c.toNat && c.toNat ≤ 31)

/-- Drops zeros at the start, and underscores among them, up to the first digit that counts. -/
def dropLeadingZeros? : List Char → Option (List Char)
  | [] => none
  | c :: cs =>
    if c == '-' || ('1' ≤ c && c ≤ '9') then some (c :: cs)
    else if c != '0' then none
    else
      match cs.dropWhile fun d => d == '0' || d == '_' with
      | [] => some [cs.getLastD '0']
      | d :: rest =>
        if '1' ≤ d && d ≤ '9' then some (d :: rest)
        else if d == '.' then
          let before := cs.takeWhile fun e => e == '0' || e == '_'
          some (before.getLastD '0' :: d :: rest)
        else none

/-- A fraction of zeros adds nothing. -/
def dropZeroFraction (cs : List Char) : List Char :=
  match cs.dropWhile (· != '.') with
  | _ :: fraction => if fraction.all (· == '0') then cs.takeWhile (· != '.') else cs
  | [] => cs

def hasDoubleUnderscore : List Char → Bool
  | '_' :: '_' :: _ => true
  | _ :: cs => hasDoubleUnderscore cs
  | [] => false

/-- Single underscores inside are dropped. -/
def dropSeparators (cs : List Char) : List Char :=
  if cs.head? == some '_' || cs.getLast? == some '_' || hasDoubleUnderscore cs then cs
  else cs.filter (· != '_')

/-- Digits without needless zeros, with an optional minus sign. -/
def canonicalInt? (cs : List Char) : Option Int :=
  let (negative, ds) : Bool × List Char := match cs with
    | '-' :: ds => (true, ds)
    | ds => (false, ds)
  if ds.isEmpty || !ds.all Char.isDigit || (ds.head? == some '0' && ds.length != 1) then none
  else
    let n : Int := Number.digitsValue ds
    some (if negative then -n else n)

def textInt? (s : String) : Option Int :=
  let cs := Text.trim isIntMargin s.toList
  let unsigned : Option (List Char) := match cs with
    | '+' :: '-' :: _ => none
    | '+' :: rest => some rest
    | rest => some rest
  (unsigned.bind dropLeadingZeros?).bind fun ds => canonicalInt? (dropSeparators (dropZeroFraction ds))

def tooLarge : Checked Int :=
  fail "Unable to parse input string as an integer, exceeded maximum size"

/-- A double without fraction, as far as 64 bits reach. -/
def readWholeFloat (x : Float) : Checked Int :=
  match Decimal.Parts.ofFloat x with
  | .finite negative b =>
    let (n, d) := b.fraction
    if n % d != 0 then fail "Input should be a valid integer, got a number with a fractional part"
    else if n / d < 0x8000000000000000 then
      let whole : Int := (n / d : Nat)
      .ok (if negative then -whole else whole)
    else tooLarge
  | _ => fail "Input should be a finite number"

/-- Truth values, whole floating point numbers and texts of digits are integers too. Only the digits
that count towards the value count towards its size. -/
def readInt : Json → Checked Int
  | .num (.int n) => .ok n
  | .num (.float x) => readWholeFloat x
  | .bool b => .ok (if b then 1 else 0)
  | .str s =>
    match textInt? s with
    | some n => if Nat.pow 10 Number.maxDigits ≤ n.natAbs then tooLarge else .ok n
    | none => fail "Input should be a valid integer, unable to parse string as an integer"
  | _ => fail "Input should be a valid integer"

end Docwright.Template
