import Docwright.Json.Basic

namespace Docwright.Style

/-- Each channel is at most 255. -/
structure Color where
  red : Nat
  green : Nat
  blue : Nat
deriving DecidableEq

def hexDigit? (c : Char) : Option Nat :=
  if c.isDigit then some (c.toNat - 48)
  else if 'a' ≤ c ∧ c ≤ 'f' then some (c.toNat - 87)
  else if 'A' ≤ c ∧ c ≤ 'F' then some (c.toNat - 55)
  else none

def hexPair? (high low : Char) : Option Nat := do
  return 16 * (← hexDigit? high) + (← hexDigit? low)

/-- One line break may follow the digits. -/
def Color.ofChars? : List Char → Option Color
  | '#' :: r₁ :: r₂ :: g₁ :: g₂ :: b₁ :: b₂ :: rest =>
    if rest = [] ∨ rest = ['\n'] then do
      return ⟨← hexPair? r₁ r₂, ← hexPair? g₁ g₂, ← hexPair? b₁ b₂⟩
    else none
  | _ => none

def Color.ofString? (s : String) : Option Color :=
  Color.ofChars? s.toList

/-- A channel as a fraction of its greatest value. -/
def channel (n : Nat) : Float :=
  Float.ofNat n / 255.0

def Color.toJson (c : Color) : Json :=
  .obj [("red", .num (.float (channel c.red))), ("green", .num (.float (channel c.green))),
    ("blue", .num (.float (channel c.blue)))]

end Docwright.Style
