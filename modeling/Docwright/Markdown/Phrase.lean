import Docwright.Markdown.Delimiter
import Docwright.Markdown.Html
import Docwright.Markdown.Line
import Docwright.Markdown.Link
import Std.Data.HashMap

namespace Docwright.Markdown

/-- Where the construct that starts at a place ends, as far as it has been found out. -/
abbrev Memo := Std.HashMap Nat Nat

/-- Inline content that starts at a place. -/
inductive Found where
  | plain (text : List Char)
  | escaped (text : String)
  | lineBreak
  | node (content : Inline)
  | link (href : String) (start stop : Nat)
  | image (href : String) (description : List Char)

structure Match where
  stop : Nat
  found : Found

/-- The text of a paragraph or heading, with the definitions that its links can use. -/
structure Phrase where
  source : Source
  definitions : Definitions

/-- Finds where the construct at a place ends. -/
abbrev Skipper := Nat → Memo → Nat × Memo

namespace Phrase

variable (p : Phrase)

/-- Characters at which something other than plain text may start. -/
def isSpecial (c : Char) : Bool :=
  "\n!#$%&*+-:<=>@[\\]^_\x60\x7b\x7d~".toList.contains c

def rest (i : Nat) : List Char :=
  p.source.slice i p.source.size

def isBreak (c : Char) : Bool :=
  isSpace c || c == '\n'

def matchText (stop i : Nat) : Match :=
  let j := p.source.skip (!isSpecial ·) i stop
  ⟨j, .plain (p.source.slice i j)⟩

def matchBreak (stop i : Nat) : Match :=
  ⟨p.source.skip isSpace (i + 1) stop, .lineBreak⟩

/-- A backslash before a character that needs no escape stays. -/
def matchEscape (stop i : Nat) : Option Match :=
  if stop ≤ i + 1 then none
  else match p.source[i + 1]? with
    | none => none
    | some '\n' => some ⟨p.source.skip isSpace (i + 2) stop, .node .hardBreak⟩
    | some c =>
      let text := if isAsciiPunct c then [c] else ['\\', c]
      some ⟨i + 2, .escaped (String.ofList text)⟩

/-- Line breaks in code are spaces; one space is taken off both ends, if something is left. -/
def codeText (cs : List Char) : String :=
  let text := cs.map fun c => if c == '\n' then ' ' else c
  if text.head? == some ' ' && text.getLast? == some ' ' && 3 ≤ text.length then
    String.ofList ((text.drop 1).dropLast)
  else String.ofList text

/-- Where the run of backticks that holds place `i` ends. -/
def ticksEnd (i : Nat) : Nat :=
  p.source.skip (· == '\x60') (i + 1) p.source.size

/-- Looks from `j` on for a run of exactly `length` backticks: where it starts and ends. -/
def closingTicks (length : Nat) : Nat → Nat → Option (Nat × Nat)
  | 0, _ => none
  | fuel + 1, j =>
    let start := p.source.skip (· != '\x60') j p.source.size
    if p.source.size ≤ start then none
    else
      let after := p.ticksEnd start
      if after - start == length then some (start, after) else closingTicks length fuel after

/-- A run of backticks starts code when a run of the same length follows anywhere in the text. -/
def matchTicks (i : Nat) : Match :=
  let after := p.ticksEnd i
  match p.closingTicks (after - i) (p.source.size + 1) after with
  | some (start, next) => ⟨next, .node (.code (codeText (p.source.slice after start)))⟩
  | none => ⟨after, .plain (p.source.slice i after)⟩

/-- The closing bracket of a label whose text starts at `i`. -/
def labelEnd (skip : Skipper) (stop : Nat) (noLinks : Bool) :
    Nat → Nat → Nat → Memo → Option Nat × Memo
  | 0, _, _, memo => (none, memo)
  | fuel + 1, depth, i, memo =>
    if stop ≤ i then (none, memo)
    else
      let c := p.source[i]?
      if c == some ']' && depth == 0 then (some i, memo)
      else
        let depth := if c == some ']' then depth - 1 else depth
        let (next, memo) := skip i memo
        if c == some '[' then
          if next == i + 1 then labelEnd skip stop noLinks fuel (depth + 1) next memo
          else if noLinks then (none, memo)
          else labelEnd skip stop noLinks fuel depth next memo
        else labelEnd skip stop noLinks fuel depth next memo

/-- Where the destination and title that start at `i` end, and the address, if it is allowed.
Nothing is found when the text ends before they start. -/
def linkTail (stop i : Nat) : Option (String × Nat) :=
  let start := p.source.skip isBreak i stop
  if stop ≤ start then none
  else
    let destination := destination? (p.source.slice start stop)
    let (address, behind) := match destination with
      | some part => match href? part.content with
        | some href => (href, start + part.used)
        | none => ("", start)
      | none => ("", start)
    let atTitle := p.source.skip isBreak behind stop
    match scanTitle (p.source.slice atTitle stop) with
    | .closed part =>
      if behind != atTitle then some (address, p.source.skip isBreak (atTitle + part.used) stop)
      else some (address, atTitle)
    | _ => some (address, atTitle)

/-- The address that a label refers to: the label in brackets at `i`, or else the text between
`start` and `close`. -/
def labelled (skip : Skipper) (stop start close i : Nat) (memo : Memo) :
    Option (String × Nat) × Memo :=
  if p.definitions.isEmpty then (none, memo)
  else
    let (bracket, memo) := if i < stop && p.source[i]? == some '[' then
        p.labelEnd skip stop false (stop - i + 1) 0 (i + 1) memo
      else (none, memo)
    let (label, next) := match bracket with
      | some j => (p.source.slice (i + 1) j, j + 1)
      | none => ([], close + 1)
    let label := if label.isEmpty then p.source.slice start close else label
    ((p.definitions.find? label).map (·, next), memo)

/-- The destination in parentheses at `i`, or else the one that the label refers to. Where the
parentheses hold no destination, a label is looked for behind the place where they fail. -/
def matchLink (skip : Skipper) (stop i : Nat) (memo : Memo) : Option Match × Memo :=
  match p.labelEnd skip stop true (stop - i + 1) 0 (i + 1) memo with
  | (none, memo) => (none, memo)
  | (some close, memo) =>
    let found := fun (target : String × Nat) => Match.mk target.2 (.link target.1 (i + 1) close)
    let byLabel := fun (next : Nat) =>
      let (target, memo) := p.labelled skip stop (i + 1) close next memo
      (target.map found, memo)
    if close + 1 < stop && p.source[close + 1]? == some '(' then
      match p.linkTail stop (close + 2) with
      | none => (none, memo)
      | some (href, j) =>
        if j < stop && p.source[j]? == some ')' then (some (found (href, j + 1)), memo)
        else byLabel (j + 1)
    else byLabel (close + 1)

def matchImage (skip : Skipper) (stop i : Nat) (memo : Memo) : Option Match × Memo :=
  if i + 1 < stop && p.source[i + 1]? != some '[' then (none, memo)
  else match p.labelEnd skip stop false (stop - i + 1) 0 (i + 2) memo with
  | (none, memo) => (none, memo)
  | (some close, memo) =>
    let found := fun (target : String × Nat) =>
      Match.mk target.2 (.image target.1 (p.source.slice (i + 2) close))
    if close + 1 < stop && p.source[close + 1]? == some '(' then
      match p.linkTail stop (close + 2) with
      | none => (none, memo)
      | some (href, j) =>
        if j < stop && p.source[j]? == some ')' then (some (found (href, j + 1)), memo)
        else (none, memo)
    else
      let (target, memo) := p.labelled skip stop (i + 2) close (close + 1) memo
      (target.map found, memo)

/-- A scheme of two to 32 characters, a colon, and no blank or angle bracket; a line break may
stand at the end. -/
def isAddress (cs : List Char) : Bool :=
  match cs with
  | c :: rest =>
    let isSchemeChar := fun d => isAlphanumeric d || d == '+' || d == '.' || d == '-'
    let scheme := rest.takeWhile isSchemeChar
    let body := match rest.dropWhile isSchemeChar with
      | ':' :: body => some body
      | _ => none
    let fits := fun (d : Char) => d != '<' && d != '>' && 0x20 < d.toNat
    c.isAlpha && 1 ≤ scheme.length && scheme.length ≤ 31 &&
      (body.map fun b => (if b.getLast? == some '\n' then b.dropLast else b).all fits).getD false
  | [] => false

def isMailLabel (cs : List Char) : Bool :=
  !cs.isEmpty && cs.length ≤ 63 && cs.all (fun c => isAlphanumeric c || c == '-') &&
    cs.head? != some '-' && cs.getLast? != some '-'

def isMailAddress (cs : List Char) : Bool :=
  let cs := if cs.getLast? == some '\n' then cs.dropLast else cs
  let isUserChar := fun c => isAlphanumeric c || ".!#$%&'*+/=?^_\x60\x7b|\x7d~-".toList.contains c
  match cs.splitOn '@' with
  | [user, domain] =>
    !user.isEmpty && user.all isUserChar && (domain.splitOn '.').all isMailLabel
  | _ => false

/-- An address in angle brackets, shown in readable form. -/
def matchAddress (stop i : Nat) : Option Match :=
  let j := p.source.skip (fun c => c != '<' && c != '>') (i + 1) stop
  if stop ≤ j || p.source[j]? != some '>' then none
  else
    let url := p.source.slice (i + 1) j
    let link := fun (address : List Char) => (href? address).map fun href =>
      Match.mk (j + 1) (.node (.link href [.text (String.ofList (Url.readable url))]))
    if isAddress url then link url
    else if isMailAddress url then link ("mailto:".toList ++ url)
    else none

def matchHtml (stop i : Nat) : Option Match :=
  if stop ≤ i + 2 then none
  else
    let cs := p.rest i
    (Html.tag? cs).map fun after =>
      let length := cs.length - after.length
      ⟨i + length, .node (.html (String.ofList (cs.take length)))⟩

def matchReference (stop i : Nat) : Option Match :=
  if stop ≤ i + 1 then none
  else
    let cs := p.rest (i + 1)
    (reference? cs).map fun (s, after) => ⟨i + 1 + (cs.length - after.length), .escaped s⟩

/-- What starts at `i`, marks of emphasis apart. -/
def match? (skip : Skipper) (stop i : Nat) (memo : Memo) : Option Match × Memo :=
  match p.source[i]? with
  | none => (none, memo)
  | some c =>
    if !isSpecial c then (some (p.matchText stop i), memo)
    else match c with
      | '\n' => (some (p.matchBreak stop i), memo)
      | '\\' => (p.matchEscape stop i, memo)
      | '\x60' => (some (p.matchTicks i), memo)
      | '[' => p.matchLink skip stop i memo
      | '!' => p.matchImage skip stop i memo
      | '<' => ((p.matchAddress stop i).or (p.matchHtml stop i), memo)
      | '&' => (p.matchReference stop i, memo)
      | _ => (none, memo)

/-- Where the construct at a place ends; a character that starts none stands for itself. Labels in
labels are followed `room` levels deep; below that everything is passed over. -/
def skip (stop : Nat) : Nat → Skipper
  | 0, i, memo =>
    match memo[i]? with
    | some next => (next, memo)
    | none => (stop + 1, memo.insert i (stop + 1))
  | room + 1, i, memo =>
    match memo[i]? with
    | some next => (next, memo)
    | none =>
      let (found, memo) := p.match? (skip stop room) stop i memo
      let next := (found.map (·.stop)).getD (i + 1)
      (next, memo.insert i next)

end Phrase

/-- Content read so far: pieces, plain text not yet in a piece, in reverse, and marks. -/
structure Strand where
  pieces : Pieces := #[]
  pending : List Char := []
  marks : Array Delimiter := #[]
  memo : Memo

namespace Strand

def flush (s : Strand) : Strand :=
  if s.pending.isEmpty then s
  else { s with pieces := s.pieces.push (.ofText (String.ofList s.pending.reverse)), pending := [] }

def push (s : Strand) (piece : Piece) : Strand :=
  let s := s.flush
  { s with pieces := s.pieces.push piece }

def pushNode (s : Strand) (i : Inline) : Strand :=
  s.push (.node i)

def pushPlain (s : Strand) (cs : List Char) : Strand :=
  { s with pending := cs.reverse ++ s.pending }

/-- Two spaces before the end of a line make it a hard break. -/
def pushBreak (s : Strand) : Strand :=
  match s.pending with
  | ' ' :: ' ' :: before => { s with pending := before.dropWhile (· == ' ') }.pushNode .hardBreak
  | ' ' :: before => { s with pending := before }.pushNode .softBreak
  | _ => s.pushNode .softBreak

/-- Adds a mark of a run. -/
def pushMark (s : Strand) (text : String) (marker : Char) (length : Nat) (sides : Bool × Bool) :
    Strand :=
  let s := s.pushNode (.text text)
  let mark : Delimiter :=
    { marker, length, piece := s.pieces.size - 1, opens := sides.1, closes := sides.2 }
  { s with marks := s.marks.push mark }

def nested (s : Strand) : List Inline :=
  let s := s.flush
  nestMarks s.pieces s.marks

end Strand

namespace Phrase

variable (p : Phrase)

/-- The run of marks at `i`: where it ends, and what it can do. -/
def run (stop i : Nat) (c : Char) : Nat × (Bool × Bool) :=
  let after := max (i + 1) (p.source.skip (· == c) (i + 1) stop)
  let before := if i == 0 then ' ' else (p.source[i - 1]?).getD ' '
  let next := if after < stop then (p.source[after]?).getD ' ' else ' '
  (after, runSides before next (c != '_'))

/-- Tildes are marks in pairs; one left over is text before them, and one alone is no mark. -/
def pushRun (s : Strand) (c : Char) (length : Nat) (sides : Bool × Bool) : Strand :=
  if c == '~' then
    let s := if length % 2 == 1 then s.pushNode (.text "~") else s
    (List.range (length / 2)).foldl (fun s _ => s.pushMark "~~" c 0 sides) s
  else
    (List.range length).foldl (fun s _ => s.pushMark (String.singleton c) c length sides) s

/-- Reads from `i` up to `stop`. `inside` reads the text of a link, `describe` that of an image. -/
def readFrom (skip : Skipper) (inside : Nat → Nat → Memo → List Inline × Memo)
    (describe : List Char → List Inline) (stop : Nat) : Nat → Nat → Strand → Strand
  | 0, _, s => s
  | fuel + 1, i, s =>
    if stop ≤ i then s
    else
      let c := (p.source[i]?).getD ' '
      let isMark := c == '~' || c == '*' || c == '_'
      let (after, sides) := p.run stop i c
      if isMark && (c != '~' || i + 2 ≤ after) then
        readFrom skip inside describe stop fuel after (pushRun s c (after - i) sides)
      else match p.match? skip stop i s.memo with
        | (none, memo) =>
          readFrom skip inside describe stop fuel (i + 1) ({ s with memo }.pushPlain [c])
        | (some m, memo) =>
          let s := { s with memo }
          let next := match m.found with
            | .plain text => s.pushPlain text
            | .escaped text => s.push (.escaped text)
            | .lineBreak => s.pushBreak
            | .node content => s.pushNode content
            | .link href start close =>
              let (children, memo) := inside start close memo
              { s with memo }.pushNode (.link href children)
            | .image href text => s.pushNode (.image href (describe text))
          readFrom skip inside describe stop fuel m.stop next

/-- Reads the text between two places. Links in links are read `room` levels deep; below that all
is plain. -/
def readRange (describe : List Char → List Inline) : Nat → Nat → Nat → Memo → List Inline × Memo
  | 0, start, stop, memo =>
    ((({ memo : Strand }.pushPlain (p.source.slice start stop)).nested), memo)
  | room + 1, start, stop, memo =>
    let s := p.readFrom (p.skip stop (room + 1)) (readRange describe room) describe stop
      (stop - start + 1) start { memo }
    (s.nested, s.memo)

end Phrase

/-- Labels nest this deep. -/
def maxLabels : Nat := 20

/-- Reads inline content with images in descriptions of images `fuel` levels deep. -/
def readPhrase (defs : Definitions) : Nat → List Char → List Inline
  | 0, _ => []
  | fuel + 1, cs =>
    let p : Phrase := ⟨cs.toArray, defs⟩
    (p.readRange (readPhrase defs fuel) maxLabels 0 p.source.size {}).1

/-- The inline content of a text. An image takes more characters than its description, so images
nest less deep than the text is long. -/
def phrase (defs : Definitions) (text : String) : List Inline :=
  readPhrase defs (text.length + 1) text.toList

end Docwright.Markdown
