import Docwright.Markdown.Character
import Docwright.Text.Punycode

namespace Docwright.Markdown

/-- A query and a fragment keep the character that introduces them. -/
structure Url where
  scheme : List Char := []
  slashes : Bool := false
  user : List Char := []
  host : List Char := []
  hostNumber : List Char := []
  path : List Char := []
  query : List Char := []
  fragment : List Char := []

namespace Url

def isSchemeChar (c : Char) : Bool :=
  let l := foldLetter c
  ('a' ≤ l && l ≤ 'z') || c.isDigit || c == '.' || c == '+' || c == '-'

/-- The scheme with its colon, and the rest. -/
def splitScheme (cs : List Char) : List Char × List Char :=
  match cs.dropWhile isSchemeChar with
  | ':' :: rest =>
    let name := cs.takeWhile isSchemeChar
    if name.isEmpty then ([], cs) else (name ++ [':'], rest)
  | _ => ([], cs)

/-- The characters up to the first one that passes, and the rest from it on. -/
def splitAt? (p : Char → Bool) (cs : List Char) : List Char × List Char :=
  (cs.takeWhile fun c => !p c, cs.dropWhile fun c => !p c)

def endsAuthority (c : Char) : Bool :=
  c == '/' || c == '?' || c == '#'

/-- The user is everything before the last at sign of the authority. -/
def splitUser (cs : List Char) : List Char × List Char :=
  let (authority, rest) := splitAt? endsAuthority cs
  if authority.contains '@' then
    let reversed := authority.reverse
    (((reversed.dropWhile (· != '@')).drop 1).reverse,
      (reversed.takeWhile (· != '@')).reverse ++ rest)
  else ([], cs)

def endsHost (c : Char) : Bool :=
  "%/?;#'\x7b\x7d|\\^\x60<>\" \r\n\t".toList.contains c

/-- The host with its number, and the rest; a colon at the end belongs to the rest. -/
def splitHost (cs : List Char) : List Char × List Char :=
  let (host, rest) := splitAt? endsHost cs
  if host.getLast? == some ':' then (host.dropLast, ':' :: rest) else (host, rest)

/-- The host and the number behind its colon. -/
def splitHostNumber (cs : List Char) : List Char × List Char :=
  let reversed := cs.reverse
  match reversed.dropWhile Char.isDigit with
  | ':' :: host => (host.reverse, (reversed.takeWhile Char.isDigit).reverse)
  | _ => (cs, [])

def isHostChar (c : Char) : Bool :=
  isAlphanumeric c || c == '+' || c == '_' || c == '-'

def isHostLabel (label : List Char) : Bool :=
  label.all isHostChar && label.length ≤ 63

def splitDots (cs : List Char) : List (List Char) :=
  cs.splitOn '.'

def joinDots (labels : List (List Char)) : List Char :=
  ['.'].intercalate labels

/-- The labels of a host up to the first one that is none, and what of it is no host. -/
def validLabels : List (List Char) → List (List Char) × Option (List (List Char))
  | [] => ([], none)
  | label :: rest =>
    if isHostLabel (label.map fun c => if 127 < c.toNat then 'x' else c) then
      let (valid, other) := validLabels rest
      (label :: valid, other)
    else
      let (good, bad) := spanUpTo isHostChar 63 label
      ([good], some (bad :: rest))

def isBracketed (host : List Char) : Bool :=
  host.head? == some '[' && host.getLast? == some ']'

/-- The host that is kept, and what of it goes to the path. -/
def checkHost (host : List Char) : List Char × List Char :=
  if isBracketed host then (if host.length > 255 then [] else (host.drop 1).dropLast, [])
  else
    let (valid, other) := validLabels (splitDots host)
    let kept := joinDots valid
    (if kept.length > 255 then [] else kept, joinDots (other.getD []))

/-- A script has no host. -/
def isHostless (scheme : List Char) : Bool :=
  scheme = "javascript:".toList

def isSlashed (scheme : List Char) : Bool :=
  ["http:", "https:", "ftp:", "gopher:", "file:"].any (·.toList = scheme)

/-- Adds what follows the host. -/
def withTail (u : Url) (cs : List Char) : Url :=
  let (beforeHash, fragment) := splitAt? (· == '#') cs
  let (path, query) := splitAt? (· == '?') beforeHash
  { u with path, query, fragment }

/-- Adds user and host, and what follows them. -/
def withAuthority (u : Url) (cs : List Char) : Url :=
  let (user, afterUser) := splitUser cs
  let (authority, rest) := splitHost afterUser
  let (named, hostNumber) := splitHostNumber authority
  let (host, spill) := checkHost named
  { u with user, host, hostNumber }.withTail (spill ++ rest)

/-- The parts of an address; two slashes at its start announce a host. -/
def parse (cs : List Char) : Url :=
  let (scheme, rest) := splitScheme (Text.trim Text.isBlank cs)
  let slashed := "//".toList.isPrefixOf rest
  if isHostless scheme then { scheme : Url }.withTail rest
  else
    let u : Url := { scheme, slashes := slashed }
    let body := if slashed then rest.drop 2 else rest
    if slashed || (!scheme.isEmpty && !isSlashed scheme) then u.withAuthority body
    else u.withTail body

def render (u : Url) : List Char :=
  u.scheme ++ (if u.slashes then ['/', '/'] else []) ++
    (if u.user.isEmpty then [] else u.user ++ ['@']) ++
    (if u.host.contains ':' then '[' :: u.host ++ [']'] else u.host) ++
    (if u.hostNumber.isEmpty then [] else ':' :: u.hostNumber) ++ u.path ++ u.query ++ u.fragment

def isLabelSeparator (c : Char) : Bool :=
  c == '.' || c.toNat == 0x3002 || c.toNat == 0xFF0E || c.toNat == 0xFF61

/-- Changes the labels of a host; an at sign keeps what stands before it. -/
def mapLabels? (f : List Char → Option (List Char)) (host : List Char) : Option (List Char) := do
  let (kept, domain) := match host.splitOn '@' with
    | first :: second :: _ => (first ++ ['@'], second)
    | _ => ([], host)
  let labels ← (domain.map fun c => if isLabelSeparator c then '.' else c).splitOn '.' |>.mapM f
  return kept ++ joinDots labels

def labelToAscii (label : List Char) : Option (List Char) :=
  some (if label.any fun c => 126 < c.toNat then "xn--".toList ++ Text.Punycode.encode label
    else label)

def labelToUnicode (label : List Char) : Option (List Char) :=
  if "xn--".toList.isPrefixOf label then
    Text.Punycode.decode? ((label.drop 4).map Char.toLower)
  else some label

/-- Host names are recoded for schemes that are known to have them. -/
def recodesHost (u : Url) : Bool :=
  !u.host.isEmpty && (u.scheme.isEmpty || ["http:", "https:", "mailto:"].any (·.toList = u.scheme))

/-- Recodes the labels of the host, if all of them can be. -/
def mapHost (f : List Char → Option (List Char)) (u : Url) : Url :=
  if u.recodesHost then { u with host := (mapLabels? f u.host).getD u.host } else u

def hexDigitUpper (n : Nat) : Char :=
  if n < 10 then Char.ofNat (48 + n) else Char.ofNat (55 + n)

def percentByte (b : Nat) : List Char :=
  ['%', hexDigitUpper (b / 16), hexDigitUpper (b % 16)]

def isUnreserved (c : Char) : Bool :=
  isAlphanumeric c || ";/?:@&=+$,-_.!~*'()#".toList.contains c

def percentEncode (c : Char) : List Char :=
  if isUnreserved c then [c]
  else (String.singleton c).toUTF8.toList.flatMap fun b => percentByte b.toNat

/-- Everything that may not stand in an address is encoded; what is encoded already is kept. -/
def encode : List Char → List Char
  | '%' :: a :: b :: rest =>
    if isHexDigit a && isHexDigit b then '%' :: a :: b :: encode rest
    else percentByte 37 ++ encode (a :: b :: rest)
  | c :: rest => percentEncode c ++ encode rest
  | [] => []

/-- The bytes of the escapes at the start, and the rest. -/
def escapedBytes : List Char → List Nat × List Char
  | '%' :: a :: b :: rest =>
    if isHexDigit a && isHexDigit b then
      let (bytes, after) := escapedBytes rest
      (hexValue [a, b] :: bytes, after)
    else ([], '%' :: a :: b :: rest)
  | cs => ([], cs)

/-- Reserved characters and the percent sign stay encoded. -/
def decodeAscii (b : Nat) : List Char :=
  if ";/?:@&=+$,#%".toList.contains (Char.ofNat b) then percentByte b else [Char.ofNat b]

def replacement : Char := Char.ofNat 0xFFFD

def isContinuation (b : Nat) : Bool :=
  0x80 ≤ b && b < 0xC0

/-- A sequence with the shape of a character that is none gives one replacement for each byte. -/
def decodeSequence (bytes : List Nat) : List Char :=
  match String.fromUTF8? ⟨(bytes.map (·.toUInt8)).toArray⟩ with
  | some s => s.toList
  | none => bytes.map fun _ => replacement

/-- The number of bytes that a first byte announces. -/
def sequenceLength (b : Nat) : Nat :=
  if 0xC0 ≤ b && b < 0xE0 then 2 else if 0xE0 ≤ b && b < 0xF0 then 3
  else if 0xF0 ≤ b && b < 0xF8 then 4 else 0

def decodeBytes : Nat → List Nat → List Char
  | 0, _ => []
  | _, [] => []
  | fuel + 1, b :: rest =>
    if b < 0x80 then decodeAscii b ++ decodeBytes fuel rest
    else
      let n := sequenceLength b
      let tail := rest.take (n - 1)
      if n != 0 && tail.length == n - 1 && tail.all isContinuation then
        decodeSequence (b :: tail) ++ decodeBytes fuel (rest.drop (n - 1))
      else replacement :: decodeBytes fuel rest

def decodeFrom : Nat → List Char → List Char
  | 0, cs => cs
  | _, [] => []
  | fuel + 1, c :: cs =>
    match escapedBytes (c :: cs) with
    | ([], _) => c :: decodeFrom fuel cs
    | (bytes, rest) => decodeBytes bytes.length bytes ++ decodeFrom fuel rest

def decode (cs : List Char) : List Char :=
  decodeFrom cs.length cs

/-- The form in which an address is stored. -/
def normalize (cs : List Char) : List Char :=
  encode (((parse cs).mapHost labelToAscii).render)

/-- The form in which an address is shown. -/
def readable (cs : List Char) : List Char :=
  decode (((parse cs).mapHost labelToUnicode).render)

def badSchemes : List String :=
  ["vbscript:", "javascript:", "file:", "data:"]

def imageData : List String :=
  ["data:image/gif;", "data:image/png;", "data:image/jpeg;", "data:image/webp;"]

/-- Scripts, files and data other than images are not linked to. -/
def isAllowed (cs : List Char) : Bool :=
  let text := (Text.trim Text.isBlank cs).map Char.toLower
  let startsWith := fun (names : List String) => names.any (·.toList.isPrefixOf text)
  !startsWith badSchemes || startsWith imageData

end Url

end Docwright.Markdown
