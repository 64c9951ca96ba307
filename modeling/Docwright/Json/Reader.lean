import Docwright.Json.Basic
import Docwright.Refusal
import Docwright.Text.Surrogate

/-!
Reading JSON text. A fault names what was expected and where. An integer of too many digits ends
the reading as well, although the text may be right; so does an unpaired surrogate, unless it is to
be marked.
-/

namespace Docwright.Json

inductive Expected where
  | value
  | memberName
  | colon
  | comma
  | closingQuote
  | printableCharacter
  | escapeLetter
  | escapeDigits
  | nothingMore
  | noByteOrderMark

def Expected.message : Expected → String
  | .value => "Expecting value"
  | .memberName => "Expecting property name enclosed in double quotes"
  | .colon => "Expecting ':' delimiter"
  | .comma => "Expecting ',' delimiter"
  | .closingQuote => "Unterminated string starting at"
  | .printableCharacter => "Invalid control character at"
  | .escapeLetter => "Invalid \\escape"
  | .escapeDigits => "Invalid \\uXXXX escape"
  | .nothingMore => "Extra data"
  | .noByteOrderMark => "Unexpected UTF-8 BOM (decode using utf-8-sig)"

/-- `left` characters of the text lie at and after a fault in it. An integer of too many digits is
no fault of the text, but is not read either, and an unpaired surrogate is no character. -/
inductive Fault where
  | expected (what : Expected) (left : Nat)
  | longInteger (digits : Nat)
  | unpaired

def skipSpace (cs : List Char) : List Char :=
  cs.dropWhile fun c => c == ' ' || c == '\t' || c == '\n' || c == '\r'

def hexValue? (c : Char) : Option Nat :=
  if c.isDigit then some (c.toNat - 48)
  else if 'a' ≤ c ∧ c ≤ 'f' then some (c.toNat - 87)
  else if 'A' ≤ c ∧ c ≤ 'F' then some (c.toNat - 55)
  else none

def hexNumber? (cs : List Char) : Option Nat :=
  cs.foldlM (fun n c => (hexValue? c).map (16 * n + ·)) 0

/-- Four digits of an escape, whose letter is the first of `letter`; one more character has to
follow. -/
def readHex4 (letter cs : List Char) : Except Fault (Nat × List Char) :=
  if (cs.drop 4).isEmpty then .error (.expected .escapeDigits letter.length)
  else match hexNumber? (cs.take 4) with
    | some n => .ok (n, cs.drop 4)
    | none => .error (.expected .escapeDigits letter.length)

/-- The character of a code point, in a marked text or in one of characters. -/
def character (marking : Bool) (n : Nat) : Except Fault Char :=
  if marking then .ok (Text.marked n)
  else if Text.isSurrogate n then .error .unpaired
  else .ok (Char.ofNat n)

/-- The character of an escape by number; a high surrogate takes a low one that follows it. -/
def readUnicode (marking : Bool) (letter cs : List Char) : Except Fault (Char × List Char) := do
  let (high, rest) ← readHex4 letter cs
  match rest with
  | '\\' :: 'u' :: more =>
    if 0xD800 ≤ high && high < 0xDC00 && !(more.drop 4).isEmpty then
      let (low, after) ← readHex4 (rest.drop 1) more
      if 0xDC00 ≤ low && low < 0xE000 then
        return (← character marking (0x10000 + (high - 0xD800) * 0x400 + (low - 0xDC00)), after)
    return (← character marking high, rest)
  | _ => return (← character marking high, rest)

def escaped? : Char → Option Char
  | '"' => some '"'
  | '\\' => some '\\'
  | '/' => some '/'
  | 'b' => some (Char.ofNat 8)
  | 'f' => some (Char.ofNat 12)
  | 'n' => some '\n'
  | 'r' => some '\r'
  | 't' => some '\t'
  | _ => none

/-- The text up to the closing quote. `opening` starts with the opening one. -/
def readString (marking : Bool) (opening : List Char) :
    Nat → List Char → List Char → Except Fault (String × List Char)
  | 0, _, _ => .error (.expected .closingQuote opening.length)
  | _, [], _ => .error (.expected .closingQuote opening.length)
  | _, '"' :: rest, acc => .ok (String.ofList acc.reverse, rest)
  | _, ['\\'], _ => .error (.expected .closingQuote opening.length)
  | fuel + 1, '\\' :: 'u' :: rest, acc => do
    let (c, after) ← readUnicode marking ('u' :: rest) rest
    readString marking opening fuel after (c :: acc)
  | fuel + 1, '\\' :: c :: rest, acc =>
    match escaped? c with
    | some e => readString marking opening fuel rest (e :: acc)
    | none => .error (.expected .escapeLetter (rest.length + 2))
  | fuel + 1, c :: rest, acc =>
    if c.toNat < 32 then .error (.expected .printableCharacter (rest.length + 1))
    else do
      let c ← character marking c.toNat
      readString marking opening fuel rest (c :: acc)

def digitsValue (ds : List Char) : Nat :=
  ds.foldl (fun n d => 10 * n + (d.toNat - 48)) 0

/-- The digits of an exponent, when at least one follows the mark and an optional sign. -/
def readExponent (cs : List Char) : Option (Int × List Char) :=
  match cs with
  | e :: rest =>
    if e == 'e' || e == 'E' then
      let (negative, body) := match rest with
        | '-' :: r => (true, r)
        | '+' :: r => (false, r)
        | r => (false, r)
      let ds := body.takeWhile Char.isDigit
      if ds.isEmpty then none
      else
        let n : Int := digitsValue ds
        some (if negative then -n else n, body.dropWhile Char.isDigit)
    else none
  | [] => none

/-- The digits after a point, when there is at least one. -/
def readFraction (cs : List Char) : Option (List Char × List Char) :=
  match cs with
  | '.' :: rest =>
    let ds := rest.takeWhile Char.isDigit
    if ds.isEmpty then none else some (ds, rest.dropWhile Char.isDigit)
  | _ => none

def negate (negative : Bool) (x : Float) : Float :=
  if negative then -x else x

/-- A number without its sign. One that has neither fraction nor exponent is an integer; with too
many digits it is not read, and their number is told. -/
def readMagnitude (negative : Bool) (cs : List Char) : Option (Except Nat (Number × List Char)) :=
  let ds := match cs with
    | '0' :: _ => ['0']
    | _ => cs.takeWhile Char.isDigit
  if ds.isEmpty then none
  else
    let rest := cs.drop ds.length
    let fraction := readFraction rest
    let (fs, afterFraction) := fraction.getD ([], rest)
    let exponent := readExponent afterFraction
    let (e, after) := exponent.getD (0, afterFraction)
    if fraction.isNone && exponent.isNone then
      let n : Int := digitsValue ds
      some (if Number.maxDigits < ds.length then .error ds.length
        else .ok (.int (if negative then -n else n), after))
    else
      let s : Decimal.Scientific := ⟨digitsValue (ds ++ fs), e - fs.length⟩
      some (.ok (.float (negate negative s.toFloat), after))

def readNumber (cs : List Char) : Option (Except Nat (Number × List Char)) :=
  match cs with
  | '-' :: rest => readMagnitude true rest
  | _ => readMagnitude false cs

def words : List (String × Json) :=
  [("null", .null), ("true", .bool true), ("false", .bool false),
    ("NaN", .num (.float (0.0 / 0.0))), ("Infinity", .num (.float (1.0 / 0.0))),
    ("-Infinity", .num (.float (-1.0 / 0.0)))]

def readWord (cs : List Char) : Option (Json × List Char) :=
  words.findSome? fun (w, v) =>
    if w.toList.isPrefixOf cs then some (v, cs.drop w.length) else none

section

variable (marking : Bool)

mutual

def readValue : Nat → List Char → Except Fault (Json × List Char)
  | 0, cs => .error (.expected .value cs.length)
  | fuel + 1, cs =>
    match cs with
    | '"' :: rest => do
      let (s, after) ← readString marking cs fuel rest []
      return (.str s, after)
    | '[' :: rest =>
      match skipSpace rest with
      | ']' :: after => .ok (.arr [], after)
      | body => readItems fuel body []
    | '\x7b' :: rest =>
      match skipSpace rest with
      | '\x7d' :: after => .ok (.obj [], after)
      | body => readMembers fuel body []
    | _ =>
      match readWord cs with
      | some found => .ok found
      | none => match readNumber cs with
        | some (.ok (n, after)) => .ok (.num n, after)
        | some (.error digits) => .error (.longInteger digits)
        | none => .error (.expected .value cs.length)

/-- The items of an array from the first one on. -/
def readItems : Nat → List Char → List Json → Except Fault (Json × List Char)
  | 0, cs, _ => .error (.expected .value cs.length)
  | fuel + 1, cs, acc => do
    let (v, after) ← readValue fuel cs
    match skipSpace after with
    | ']' :: rest => return (.arr (v :: acc).reverse, rest)
    | ',' :: rest => readItems fuel (skipSpace rest) (v :: acc)
    | rest => .error (.expected .comma rest.length)

/-- The members of an object from the first name on. -/
def readMembers : Nat → List Char → List (String × Json) → Except Fault (Json × List Char)
  | 0, cs, _ => .error (.expected .value cs.length)
  | fuel + 1, cs, acc =>
    match cs with
    | '"' :: body => do
      let (name, afterName) ← readString marking cs fuel body []
      match skipSpace afterName with
      | ':' :: rest =>
        let (v, after) ← readValue fuel (skipSpace rest)
        match skipSpace after with
        | '\x7d' :: rest => return (ofPairs ((name, v) :: acc).reverse, rest)
        | ',' :: rest => readMembers fuel (skipSpace rest) ((name, v) :: acc)
        | rest => .error (.expected .comma rest.length)
      | rest => .error (.expected .colon rest.length)
    | _ => .error (.expected .memberName cs.length)

end

def readText (cs : List Char) : Except Fault Json :=
  if cs.head? == some (Char.ofNat 0xFEFF) then .error (.expected .noByteOrderMark cs.length)
  else do
    let (v, after) ← readValue marking (2 * cs.length + 1) (skipSpace cs)
    match skipSpace after with
    | [] => return v
    | rest => .error (.expected .nothingMore rest.length)

end

/-- Why a text is not read. -/
inductive Unread where
  | syntaxError (message : String)
  | longInteger (digits : Nat)
  /-- Texts in the value hold unpaired surrogates; here they are marked texts. -/
  | unpaired (value : Json)

def Unread.message : Unread → String
  | .syntaxError m => m
  | .longInteger digits => (Refusal.longInteger digits).message
  | .unpaired _ => "surrogates not allowed"

/-- What was expected at a place, with the line, the column and the number of characters before it. -/
def Expected.located (what : Expected) (left : Nat) (text : List Char) : String :=
  let place := text.length - left
  let before := text.take place
  let line := before.count '\n' + 1
  let column := (before.reverse.takeWhile (· != '\n')).length + 1
  s!"{what.message}: line {line} column {column} (char {place})"

def Fault.unread (text : List Char) (value : Json) : Fault → Unread
  | .expected what left => .syntaxError (what.located left text)
  | .longInteger digits => .longInteger digits
  | .unpaired => .unpaired value

/-- The value that a text holds. Other faults count before an unpaired surrogate, wherever they are. -/
def ofText (text : String) : Except Unread Json := do
  let cs := text.toList
  let value ← (readText true cs).mapError (Fault.unread cs .null)
  (readText false cs).mapError (Fault.unread cs value)

def parse (text : String) : Except String Json :=
  (ofText text).mapError Unread.message

end Docwright.Json
