import Docwright.Text.Blank
import Docwright.Text.Entities
import Docwright.Text.Punctuation

/-!
Characters that Markdown treats in a way of their own, and the ways to write a character by its
number or its name.
-/

namespace Docwright.Markdown

/-- The blanks that indent and separate. -/
def isSpace (c : Char) : Bool :=
  c == ' ' || c == '\t'

def isAsciiPunct (c : Char) : Bool :=
  let n := c.toNat
  (33 ≤ n && n ≤ 47) || (58 ≤ n && n ≤ 64) || (91 ≤ n && n ≤ 96) || (123 ≤ n && n ≤ 126)

def isPunct (c : Char) : Bool :=
  isAsciiPunct c || Text.isPunctuation c

/-- The blanks that decide on which side of a marker a word stands. -/
def isWordGap (c : Char) : Bool :=
  let n := c.toNat
  (9 ≤ n && n ≤ 13) || n == 32 || n == 0xA0 || n == 0x1680 || (0x2000 ≤ n && n ≤ 0x200A) ||
    n == 0x202F || n == 0x205F || n == 0x3000

/-- The blanks that do not count around the text of a paragraph, a heading or a label: besides the
word gaps the separators of lines and paragraphs and the mark of byte order. The separator controls
and the next-line control are text. -/
def isMargin (c : Char) : Bool :=
  let n := c.toNat
  isWordGap c || n == 0x2028 || n == 0x2029 || n == 0xFEFF

def isAlphanumeric (c : Char) : Bool :=
  c.isAlpha || c.isDigit

/-- Lower case for ASCII letters and for the four characters whose case variants are ASCII. -/
def foldLetter (c : Char) : Char :=
  match c.toNat with
  | 0x130 | 0x131 => 'i'
  | 0x17F => 's'
  | 0x212A => 'k'
  | _ => c.toLower

/-- Controls, surrogates and points set aside for ever name no character. -/
def isCharacterCode (n : Nat) : Bool :=
  !((0xD800 ≤ n && n ≤ 0xDFFF) || (0xFDD0 ≤ n && n ≤ 0xFDEF) || n % 0x10000 ≥ 0xFFFE ||
    n ≤ 0x08 || n == 0x0B || (0x0E ≤ n && n ≤ 0x1F) || (0x7F ≤ n && n ≤ 0x9F) || 0x10FFFF < n)

def hexDigit? (c : Char) : Option Nat :=
  if c.isDigit then some (c.toNat - 48)
  else if 'a' ≤ c ∧ c ≤ 'f' then some (c.toNat - 87)
  else if 'A' ≤ c ∧ c ≤ 'F' then some (c.toNat - 55)
  else none

def isHexDigit (c : Char) : Bool :=
  (hexDigit? c).isSome

def hexValue (ds : List Char) : Nat :=
  ds.foldl (fun n d => 16 * n + (hexDigit? d).getD 0) 0

def decimalValue (ds : List Char) : Nat :=
  ds.foldl (fun n d => 10 * n + (d.toNat - 48)) 0

/-- The longest run at the start whose characters pass, at most `limit` of them, and the rest. -/
def spanUpTo (p : Char → Bool) : Nat → List Char → List Char × List Char
  | 0, cs => ([], cs)
  | _, [] => ([], [])
  | limit + 1, c :: cs =>
    if p c then
      let (run, rest) := spanUpTo p limit cs
      (c :: run, rest)
    else ([], c :: cs)

/-- The number between hash sign and semicolon: at most `decimal` or `hexadecimal` digits. -/
def characterNumber? (decimal hexadecimal : Nat) (cs : List Char) : Option (Nat × List Char) :=
  let finish := fun (value : List Char → Nat) (run : List Char × List Char) =>
    match run with
    | ([], _) => none
    | (ds, ';' :: rest) => some (value ds, rest)
    | _ => none
  match cs with
  | 'x' :: rest | 'X' :: rest => finish hexValue (spanUpTo isHexDigit hexadecimal rest)
  | _ => finish decimalValue (spanUpTo Char.isDigit decimal cs)

/-- The name between ampersand and semicolon, when it stands for characters. -/
def characterName? (cs : List Char) : Option (String × List Char) :=
  match cs with
  | [] => none
  | c :: _ =>
    if !c.isAlpha then none
    else match spanUpTo isAlphanumeric 32 cs with
      | (name, ';' :: rest) => (Text.entity? (String.ofList name)).map (·, rest)
      | _ => none

/-- The reference after an ampersand in running text; a number that names no character gives the
replacement character. -/
def reference? (cs : List Char) : Option (String × List Char) :=
  match cs with
  | '#' :: rest => (characterNumber? 7 6 rest).map fun (n, after) =>
      (String.singleton (Char.ofNat (if isCharacterCode n then n else 0xFFFD)), after)
  | _ => characterName? cs

/-- The reference after an ampersand in a link; a number that names no character stays. -/
def linkReference? (cs : List Char) : Option (String × List Char) :=
  match cs with
  | '#' :: rest => (characterNumber? 8 8 rest).bind fun (n, after) =>
      if isCharacterCode n then some (String.singleton (Char.ofNat n), after) else none
  | _ => characterName? cs

def unescapeFrom : Nat → List Char → List Char
  | 0, cs => cs
  | _, [] => []
  | fuel + 1, '\\' :: c :: rest =>
    if isAsciiPunct c then c :: unescapeFrom fuel rest else '\\' :: unescapeFrom fuel (c :: rest)
  | fuel + 1, '&' :: rest =>
    match linkReference? rest with
    | some (s, after) => s.toList ++ unescapeFrom fuel after
    | none => '&' :: unescapeFrom fuel rest
  | fuel + 1, c :: rest => c :: unescapeFrom fuel rest

/-- The text of a destination or title, with escapes and references carried out. -/
def unescape (cs : List Char) : List Char :=
  unescapeFrom cs.length cs

end Docwright.Markdown
