import Docwright.Json.Basic
import Docwright.Text.Quoted

namespace Docwright.Json

def escapeChar (c : Char) : String :=
  if c == '"' then "\\\"" else if c == '\\' then "\\\\"
  else if c.toNat < 32 then "\\u" ++ Text.hex 4 c.toNat
  else String.singleton c

def quote (s : String) : String :=
  "\"" ++ String.join (s.toList.map escapeChar) ++ "\""

/-- A floating point number without a value is written as a text. -/
def printNumber : Number → String
  | .int n => toString n
  | .float x => if x.isFinite then (Number.float x).text else quote (Number.float x).text

mutual

def print : Json → String
  | .null => "null"
  | .bool b => if b then "true" else "false"
  | .num n => printNumber n
  | .str s => quote s
  | .arr xs => "[" ++ String.intercalate "," (printItems xs) ++ "]"
  | .obj ms => "\x7b" ++ String.intercalate "," (printMembers ms) ++ "\x7d"

def printItems : List Json → List String
  | [] => []
  | x :: xs => print x :: printItems xs

def printMembers : List (String × Json) → List String
  | [] => []
  | (n, v) :: ms => (quote n ++ ":" ++ print v) :: printMembers ms

end

end Docwright.Json
