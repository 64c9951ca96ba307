/-!
Blank characters, and texts with the blanks at their ends taken off.
-/

namespace Docwright.Text

/-- The blanks of Unicode, with the four separator controls. -/
def isBlank (c : Char) : Bool :=
  let n := c.toNat
  (9 ≤ n && n ≤ 13) || (28 ≤ n && n ≤ 32) || n == 0x85 || n == 0xA0 || n == 0x1680 ||
    (0x2000 ≤ n && n ≤ 0x200A) || n == 0x2028 || n == 0x2029 || n == 0x202F || n == 0x205F ||
    n == 0x3000

/-- Nothing but blanks. -/
def allBlank (s : String) : Bool :=
  s.toList.all isBlank

def stripLeft (s : String) : String :=
  String.ofList (s.toList.dropWhile isBlank)

/-- Takes the characters that pass off both ends. -/
def trim (p : Char → Bool) (cs : List Char) : List Char :=
  ((cs.dropWhile p).reverse.dropWhile p).reverse

def strip (s : String) : String :=
  String.ofList (trim isBlank s.toList)

/-- Every run of characters that pass becomes one space. -/
def collapse (p : Char → Bool) : List Char → List Char
  | [] => []
  | c :: cs =>
    if p c then
      match cs with
      | d :: _ => if p d then collapse p cs else ' ' :: collapse p cs
      | [] => [' ']
    else c :: collapse p cs

end Docwright.Text
