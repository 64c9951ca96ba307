import Docwright.Number
import Docwright.Text.Blank
import Docwright.Text.Digits

/-!
Numbers read from loose text: blanks around them, digits of any script, and single underscores
between digits are accepted.
-/

namespace Docwright.Number

/-- Decimal digits become ASCII ones and blanks beyond ASCII become spaces. -/
def plainChar (c : Char) : Char :=
  if c.toNat < 128 then c
  else match Text.digitValue? c with
    | some d => Char.ofNat (48 + d)
    | none => if Text.isBlank c then ' ' else c

def isMargin (c : Char) : Bool :=
  c == ' ' || (9 ≤ c.toNat && c.toNat ≤ 13)

/-- The characters without the blanks around them. -/
def looseChars (s : String) : List Char :=
  Text.trim isMargin (s.toList.map plainChar)

def splitSign : List Char → Bool × List Char
  | '-' :: cs => (true, cs)
  | '+' :: cs => (false, cs)
  | cs => (false, cs)

/-- The digits, when every underscore stands between two of them. -/
def groupedDigits? (afterDigit : Bool) : List Char → Option (List Char)
  | [] => if afterDigit then some [] else none
  | c :: cs =>
    if c.isDigit then (groupedDigits? true cs).map (c :: ·)
    else if c == '_' && afterDigit then groupedDigits? false cs
    else none

def digitsValue (ds : List Char) : Nat :=
  ds.foldl (fun n d => 10 * n + (d.toNat - 48)) 0

/-- Integers with more digits are not read. -/
def maxDigits : Nat := 4300

def readInt? (s : String) : Option Int :=
  let (negative, body) := splitSign (looseChars s)
  (groupedDigits? false body).bind fun ds =>
    let n : Int := digitsValue ds
    if maxDigits < ds.length then none else some (if negative then -n else n)

/-- The characters without underscores, when every underscore stands between two digits. -/
def dropUnderscores? (before : Char) : List Char → Option (List Char)
  | [] => if before == '_' then none else some []
  | c :: cs =>
    if c == '_' then
      if before.isDigit then dropUnderscores? c cs else none
    else if before == '_' && !c.isDigit then none
    else (dropUnderscores? c cs).map (c :: ·)

/-- The exponent, when nothing else is left. -/
def exponent? : List Char → Option Int
  | [] => some 0
  | c :: cs =>
    if c == 'e' || c == 'E' then
      let (negative, ds) := splitSign cs
      if ds.isEmpty || !ds.all Char.isDigit then none
      else
        let n : Int := digitsValue ds
        some (if negative then -n else n)
    else none

def unsigned? (cs : List Char) : Option Float :=
  let word := (String.ofList cs).map Char.toLower
  if word = "inf" ∨ word = "infinity" then some (1.0 / 0.0)
  else if word = "nan" then some (0.0 / 0.0)
  else
    let whole := cs.takeWhile Char.isDigit
    let afterWhole := cs.dropWhile Char.isDigit
    let (fraction, rest) := match afterWhole with
      | '.' :: r => (r.takeWhile Char.isDigit, r.dropWhile Char.isDigit)
      | r => ([], r)
    if whole.isEmpty && fraction.isEmpty then none
    else (exponent? rest).map fun e =>
      Decimal.Scientific.toFloat ⟨digitsValue (whole ++ fraction), e - fraction.length⟩

def readFloat? (s : String) : Option Float := do
  let (negative, body) := splitSign (← dropUnderscores? ' ' (looseChars s))
  let x ← unsigned? body
  return if negative then -x else x

/-- The integer part of a double that has one. -/
def truncate? (x : Float) : Option Int :=
  match Decimal.Parts.ofFloat x with
  | .finite negative b =>
    let (n, d) := b.fraction
    let whole : Int := (n / d : Nat)
    some (if negative then -whole else whole)
  | _ => none

end Docwright.Number
