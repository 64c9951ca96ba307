/-!
Labels of host names with characters beyond ASCII, written in ASCII.

The characters beyond ASCII are written, from the least code point on, as the distance from the
one before, in digits of base 36 whose weight adapts to the distances seen so far.
-/

namespace Docwright.Text.Punycode

def digit (n : Nat) : Char :=
  if n < 26 then Char.ofNat (97 + n) else Char.ofNat (22 + n)

def digitValue? (c : Char) : Option Nat :=
  if c.isDigit then some (c.toNat - 22)
  else if 'a' ≤ c ∧ c ≤ 'z' then some (c.toNat - 97)
  else if 'A' ≤ c ∧ c ≤ 'Z' then some (c.toNat - 65)
  else none

/-- The greatest value of the digit whose weight is `36 * (j + 1)` steps in. -/
def threshold (j bias : Nat) : Nat :=
  let r := 36 * (j + 1) - bias
  if r < 1 then 1 else if 26 < r then 26 else r

def halve : Nat → Nat → Nat → Nat
  | 0, divisions, delta => divisions + 36 * delta / (delta + 38)
  | fuel + 1, divisions, delta =>
    if 455 < delta then halve fuel (divisions + 36) (delta / 35)
    else divisions + 36 * delta / (delta + 38)

def adapt (delta : Nat) (first : Bool) (count : Nat) : Nat :=
  let d := if first then delta / 700 else delta / 2
  halve d 0 (d + d / count)

def numeral : Nat → Nat → Nat → Nat → List Char
  | 0, _, _, _ => []
  | fuel + 1, j, n, bias =>
    let t := threshold j bias
    if n < t then [digit n]
    else digit (t + (n - t) % (36 - t)) :: numeral fuel (j + 1) ((n - t) / (36 - t)) bias

/-- Progress of the writer: characters written, distance owed, bias and output in reverse. -/
structure Writer where
  written : Nat
  delta : Nat
  bias : Nat
  output : List Char

/-- One pass over the text for the characters at point `n`. -/
def Writer.pass (base n : Nat) (w : Writer) (c : Char) : Writer :=
  if c.toNat < n then { w with delta := w.delta + 1 }
  else if c.toNat == n then
    { written := w.written + 1
      delta := 0
      bias := adapt w.delta (w.written == base) (w.written + 1)
      output := (numeral (w.delta + 1) 0 w.delta w.bias).reverse ++ w.output }
  else w

/-- Writes the points of `points`, which ascend, after having dealt with all below `low`. -/
def encodePoints (cs : List Char) (base : Nat) : Nat → List Nat → Writer → List Char
  | _, [], w => w.output.reverse
  | low, n :: ns, w =>
    let owed := { w with delta := w.delta + (n - low) * (w.written + 1) }
    let after := cs.foldl (Writer.pass base n) owed
    encodePoints cs base (n + 1) ns { after with delta := after.delta + 1 }

def encode (cs : List Char) : List Char :=
  let basic := cs.filter fun c => c.toNat < 128
  let points := ((cs.map (·.toNat)).filter (128 ≤ ·)).eraseDups.mergeSort (· ≤ ·)
  let start : Writer := { written := basic.length, delta := 0, bias := 72, output := [] }
  let body := encodePoints cs basic.length 128 points start
  if basic.isEmpty then body else basic ++ '-' :: body

/-- One distance, with the digits after it. -/
def readNumeral (bias : Nat) : Nat → Nat → Nat → List Char → Option (Nat × List Char)
  | _, _, _, [] => none
  | j, weight, sum, c :: cs =>
    match digitValue? c with
    | none => none
    | some d =>
      let t := threshold j bias
      if d < t then some (sum + d * weight, cs)
      else readNumeral bias (j + 1) (weight * (36 - t)) (sum + d * weight) cs

def decodeFrom : Nat → List Char → Nat → Nat → Nat → List Char → Bool → Option (List Char)
  | 0, _, _, _, _, _, _ => none
  | _, acc, _, _, _, [], _ => some acc
  | fuel + 1, acc, point, position, bias, digits, first => do
    let (delta, rest) ← readNumeral bias 0 1 0 digits
    let total := position + delta
    let next := point + total / (acc.length + 1)
    let place := total % (acc.length + 1)
    if 0x10FFFF < next then none
    else
      let grown := acc.take place ++ Char.ofNat next :: acc.drop place
      decodeFrom fuel grown next (place + 1) (adapt delta first grown.length) rest false

/-- The label that a text in ASCII stands for, if it stands for one. -/
def decode? (cs : List Char) : Option (List Char) :=
  if cs.any fun c => 128 ≤ c.toNat then none
  else
    let reversed := cs.reverse
    let digits := (reversed.takeWhile (· != '-')).reverse
    let basic := ((reversed.dropWhile (· != '-')).drop 1).reverse
    decodeFrom (cs.length + 1) basic 128 0 72 digits true

end Docwright.Text.Punycode
