import Docwright.Json.Basic
import Docwright.Text.Quoted

/-!
Values as they are shown inside a message: texts in quotes, brackets and braces with a blank
after each comma.
-/

namespace Docwright.Json

mutual

def shown : Json → String
  | .null => "None"
  | .bool b => if b then "True" else "False"
  | .num n => n.text
  | .str s => Text.quoted s
  | .arr xs => "[" ++ String.intercalate ", " (shownItems xs) ++ "]"
  | .obj ms => "\x7b" ++ String.intercalate ", " (shownMembers ms) ++ "\x7d"

def shownItems : List Json → List String
  | [] => []
  | x :: xs => shown x :: shownItems xs

def shownMembers : List (String × Json) → List String
  | [] => []
  | (n, v) :: ms => (Text.quoted n ++ ": " ++ shown v) :: shownMembers ms

end

/-- A text by itself stands without quotes. -/
def plain : Json → String
  | .str s => s
  | v => v.shown

end Docwright.Json
