import Docwright.Style.Color
import Docwright.Style.Named
import Docwright.Text.Blank

namespace Docwright.Style

/-- Nothing, or a colour. -/
def readColor (parameter : String) : Json → Except Refusal (Option Color)
  | .null => .ok none
  | .str s => match Color.ofString? s with
    | some c => .ok (some c)
    | none => .error (.color parameter (.str s))
  | given => .error (.color parameter given)

/-- The empty text asks for no colour. -/
def readOptionalColor (s : String) : Except Refusal (Option Color) :=
  if s = "" then .ok none else readColor "color" (.str s)

/-- Zero leaves the size alone. -/
def checkFontSize (points : Number) : Except Refusal Unit :=
  if points.isZero || ((Number.int Refusal.minFontSize).le points &&
      points.le (.int Refusal.maxFontSize)) then .ok ()
  else .error .fontSize

def checkItemsFrom (position : Nat) : List String → Except Refusal Unit
  | [] => .ok ()
  | item :: rest =>
    if Text.allBlank item then .error (.blankItem position) else checkItemsFrom (position + 1) rest

/-- A list has items, and none of them is blank. -/
def checkItems (items : List String) : Except Refusal Unit :=
  if items.isEmpty then .error .noItems else checkItemsFrom 0 items

def checkIndent (levels : Int) : Except Refusal Unit :=
  if levels < 0 then .error .negativeIndent
  else if Refusal.maxIndent < levels then .error .deepIndent
  else .ok ()

end Docwright.Style
