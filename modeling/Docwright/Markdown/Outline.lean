import Docwright.Markdown.Html
import Docwright.Markdown.Line
import Docwright.Markdown.Link
import Docwright.Markdown.Tree

/-!
The blocks of a document. Their contents are raw text: what a label means is known only at the
end of the document.
-/

namespace Docwright.Markdown

namespace Region

def isBullet (c : Char) : Bool :=
  c == '*' || c == '-' || c == '+'

/-- The end of a marker must be the end of the line or a blank. -/
def endsMarker (r : Region) (l : Line) (i : Nat) : Bool :=
  l.stop ≤ i || ((r.char? i).map isSpace).getD false

/-- A list marker: where it ends, its last character, and the number of an ordered one. -/
structure Marker where
  stop : Nat
  kind : Char
  number : Option Nat

def bulletMarker? (r : Region) (n : Nat) : Option Marker := do
  let l := r.line n
  let c ← r.char? l.text
  if isBullet c && r.endsMarker l (l.text + 1) then some ⟨l.text + 1, c, none⟩ else none

/-- One to nine digits and a period or a closing parenthesis. -/
def numberMarker? (r : Region) (n : Nat) : Option Marker := do
  let l := r.line n
  let i := r.source.skip Char.isDigit l.text l.stop
  let digits := i - l.text
  let c ← r.char? i
  if 1 ≤ digits && digits ≤ 9 && i < l.stop && (c == '.' || c == ')') && r.endsMarker l (i + 1) then
    some ⟨i + 1, c, some (decimalValue (r.source.slice l.text i))⟩
  else none

def marker? (r : Region) (n : Nat) : Option Marker :=
  (r.numberMarker? n).or (r.bulletMarker? n)

/-- At least three marks of one kind, with nothing but blanks between them. -/
def isRule (r : Region) (n : Nat) : Bool :=
  let l := r.line n
  let cs := r.source.slice l.text l.stop
  match cs with
  | c :: _ =>
    !r.isCode n && (c == '*' || c == '-' || c == '_') && cs.all (fun d => d == c || isSpace d) &&
      3 ≤ cs.count c
  | [] => false

/-- The fence that opens a code block: its mark, its length and where it ends. -/
def fence? (r : Region) (n : Nat) : Option (Char × Nat) :=
  let l := r.line n
  let cs := r.source.slice l.text l.stop
  match cs with
  | c :: _ =>
    let length := (cs.takeWhile (· == c)).length
    if !r.isCode n && (c == '~' || c == '\x60') && 3 ≤ length &&
        (c == '~' || !(cs.drop length).contains c) then some (c, length)
    else none
  | [] => none

def isQuote (r : Region) (n : Nat) : Bool :=
  !r.isCode n && r.char? (r.line n).text == some '>'

/-- The level of a heading and the place behind its hash signs. -/
def heading? (r : Region) (n : Nat) : Option (Nat × Nat) :=
  let l := r.line n
  let i := r.source.skip (· == '#') l.text l.stop
  let level := i - l.text
  if !r.isCode n && 1 ≤ level && level ≤ 6 && r.endsMarker l i then some (level, i) else none

def htmlStart? (r : Region) (n : Nat) : Option (Html.Ending × Bool) :=
  let l := r.line n
  if r.isCode n then none else Html.blockStart? (r.source.slice l.text l.stop)

/-- Deep under the list around it, a line that is outside of the item goes on with a paragraph. -/
def isContinuation (r : Region) (n : Nat) : Bool :=
  match r.listBase with
  | some base => (r.line n).indent - base ≥ 4 && r.isOutside n
  | none => false

/-- The marker of a list that starts at a line. -/
def listStart? (r : Region) (n : Nat) : Option Marker :=
  if r.isCode n || r.isContinuation n then none else r.marker? n

/-- What a paragraph is interrupted by counts as a list only if it is no sentence that happens to
start like one: it is numbered one, and not empty. -/
def interruptsParagraph (r : Region) (n : Nat) (m : Marker) : Bool :=
  let l := r.line n
  r.isOutside n ||
    ((m.number.getD 1) == 1 && r.source.skip isSpace m.stop l.stop < l.stop)

/-- Whether a block starts that ends a list item. -/
def endsItem (r : Region) (n : Nat) : Bool :=
  (r.fence? n).isSome || r.isQuote n || r.isRule n

/-- Whether a block starts that ends a paragraph; `inParagraph` tells a paragraph from a quote or
a definition. -/
def interrupts (r : Region) (inParagraph : Bool) (n : Nat) : Bool :=
  r.endsItem n ||
    (match r.listStart? n with
      | some m => !inParagraph || r.interruptsParagraph n m
      | none => false) ||
    ((r.htmlStart? n).map (·.2)).getD false || (r.heading? n).isSome

/-- The line up to which a paragraph goes. -/
def paragraphEnd (r : Region) : Nat → Nat → Nat
  | 0, n => n
  | fuel + 1, n =>
    if r.limit ≤ n || r.isEmpty n then n
    else if (r.line n).indent - r.base > 3 || (r.line n).indent < 0 then r.paragraphEnd fuel (n + 1)
    else if r.interrupts true n then n
    else r.paragraphEnd fuel (n + 1)

/-- The level of the heading that a line underlines. -/
def underline? (r : Region) (n : Nat) : Option Nat :=
  let l := r.line n
  if r.isOutside n then none
  else match r.source.slice l.text l.stop with
    | c :: cs =>
      if (c == '-' || c == '=') && (cs.dropWhile (· == c)).all isSpace then
        some (if c == '=' then 1 else 2)
      else none
    | [] => none

/-- The underline of the paragraph that goes on at line `n`, with its level. -/
def underlineFrom (r : Region) (stop : Nat) : Nat → Nat → Option (Nat × Nat)
  | 0, _ => none
  | fuel + 1, n =>
    if stop ≤ n || r.isEmpty n then none
    else if (r.line n).indent - r.base > 3 then r.underlineFrom stop fuel (n + 1)
    else match r.underline? n with
      | some level => some (n, level)
      | none =>
        if (r.line n).indent < 0 then r.underlineFrom stop fuel (n + 1)
        else if r.interrupts true n then none
        else r.underlineFrom stop fuel (n + 1)

/-- The line behind an indented code block that starts before line `n`. -/
def codeEnd (r : Region) (stop : Nat) : Nat → Nat → Nat → Nat
  | 0, _, last => last
  | fuel + 1, n, last =>
    if stop ≤ n then last
    else if r.isEmpty n then r.codeEnd stop fuel (n + 1) last
    else if r.isCode n then r.codeEnd stop fuel (n + 1) (n + 1)
    else last

/-- Whether a line closes a fence of at least `length` marks. -/
def closesFence (r : Region) (mark : Char) (length n : Nat) : Bool :=
  let l := r.line n
  let cs := r.source.slice l.text l.stop
  !r.isCode n && length ≤ (cs.takeWhile (· == mark)).length &&
    (cs.dropWhile (· == mark)).all isSpace

/-- The line at which a fenced block ends, and whether that line closes it. -/
def fenceEnd (r : Region) (mark : Char) (length stop : Nat) : Nat → Nat → Nat × Bool
  | 0, n => (n, false)
  | fuel + 1, n =>
    let l := r.line n
    if stop ≤ n || (l.text < l.stop && r.isOutside n) || r.source.size ≤ l.text then (n, false)
    else if r.closesFence mark length n then (n, true)
    else r.fenceEnd mark length stop fuel (n + 1)

/-- The line behind a block of HTML that goes on at line `n`. -/
def htmlEnd (r : Region) (ending : Html.Ending) (stop : Nat) : Nat → Nat → Nat
  | 0, n => n
  | fuel + 1, n =>
    if stop ≤ n || (r.isOutside n && !r.isEmpty n) then n
    else
      let l := r.line n
      let cs := r.source.slice l.text l.stop
      if ending.inLine cs then (if cs.isEmpty then n else n + 1)
      else r.htmlEnd ending stop fuel (n + 1)

/-- A line without its quote mark and the blank after it; a tab after the mark gives one column to
the mark. -/
def unquote (r : Region) (l : Line) : Line :=
  let i := l.text + 1
  let column := l.indent + 1
  let (start, first, shift, wide) : Nat × Int × Int × Int :=
    match r.char? i with
    | some ' ' => (i + 1, column + 1, 0, 1)
    | some '\t' =>
      if (l.column + column) % 4 == 3 then (i + 1, column + 1, 0, 1) else (i, column, 1, 1)
    | _ => (i, column, 0, 0)
  let (text, stop) := skipIndent r.source l.stop (l.column + shift) (l.stop - start) start first
  { start, stop := l.stop, margin := text - start, indent := stop - first,
    column := column + wide }

/-- The lines of a quote that goes on at line `n`, and the line behind it. `afterEmpty` says that
the line before holds nothing but the mark. -/
def quoteFrom (r : Region) (stop : Nat) : Nat → Nat → Bool → Region → Region × Nat
  | 0, n, _, acc => (acc, n)
  | fuel + 1, n, afterEmpty, acc =>
    let l := r.line n
    if stop ≤ n || l.isEmpty then (acc, n)
    else if r.char? l.text == some '>' && !r.isOutside n then
      let inner := r.unquote l
      r.quoteFrom stop fuel (n + 1) inner.isEmpty { acc with lines := acc.lines.setIfInBounds n inner }
    else if afterEmpty then (acc, n)
    else if r.interrupts false n then
      let shifted := { l with indent := l.indent - r.base }
      ({ acc with limit := n, lines := acc.lines.setIfInBounds n shifted }, n)
    else
      r.quoteFrom stop fuel (n + 1) false
        { acc with lines := acc.lines.setIfInBounds n { l with indent := -1 } }

/-- The lines of the quote that starts at line `n`, as seen from inside, and the line behind it. -/
def quote (r : Region) (n stop : Nat) : Region × Nat :=
  let inner := r.unquote (r.line n)
  let (lines, next) := r.quoteFrom stop (stop - n) (n + 1) inner.isEmpty
    { r with lines := r.lines.setIfInBounds n inner }
  ({ lines with base := 0 }, next)

/-- The lines as the item that starts at line `n` sees them. -/
def item (r : Region) (n : Nat) (m : Marker) : Region :=
  let l := r.line n
  let first := l.indent + (m.stop - l.text : Nat)
  let (text, column) := skipIndent r.source l.stop l.column (l.stop - m.stop) m.stop first
  let gap := if l.stop ≤ text || column - first > 4 then 1 else column - first
  { r with
    lines := r.lines.setIfInBounds n { l with margin := text - l.start, indent := column }
    base := first + gap
    listBase := some r.base }

/-- The marker of the next item of a list, if the list goes on at line `n`. -/
def nextItem? (r : Region) (before : Marker) (n : Nat) : Option Marker :=
  if r.isOutside n || r.isCode n || r.endsItem n then none
  else
    let m := if before.number.isSome then r.numberMarker? n else r.bulletMarker? n
    m.filter (·.kind == before.kind)

/-- The next line as far as a definition may go on in it. -/
def definitionLine? (r : Region) (n : Nat) : Option (List Char) :=
  let l := r.line n
  if r.limit ≤ n || l.isEmpty then none
  else if !r.isCode n && 0 ≤ l.indent && r.interrupts false n then none
  else some (r.source.slice l.text (l.stop + 1))

/-- Text of a definition that takes in further lines as it is read. -/
structure Growing where
  rest : List Char
  next : Nat

/-- Takes in a line at the end of the text. -/
def grow (r : Region) (g : Growing) : Growing :=
  match r.definitionLine? g.next with
  | some more => ⟨g.rest ++ more, g.next + 1⟩
  | none => g

/-- The label up to its closing bracket, and what follows. -/
def definitionLabel? (r : Region) : Nat → Growing → List Char → Option (List Char × Growing)
  | 0, _, _ => none
  | fuel + 1, g, acc =>
    match g.rest with
    | [] => none
    | '[' :: _ => none
    | ']' :: rest => some (acc.reverse, { g with rest })
    | '\n' :: rest => r.definitionLabel? fuel (r.grow { g with rest }) ('\n' :: acc)
    | '\\' :: '\n' :: rest => r.definitionLabel? fuel (r.grow { g with rest }) ('\n' :: '\\' :: acc)
    | '\\' :: c :: rest => r.definitionLabel? fuel { g with rest } (c :: '\\' :: acc)
    | c :: rest => r.definitionLabel? fuel { g with rest } (c :: acc)

/-- Skips blanks and line breaks, taking in lines. -/
def skipBreaks (r : Region) : Nat → Growing → Growing
  | 0, g => g
  | fuel + 1, g =>
    match g.rest with
    | '\n' :: rest => r.skipBreaks fuel (r.grow { g with rest })
    | c :: rest => if isSpace c then r.skipBreaks fuel { g with rest } else g
    | [] => g

/-- Whether nothing but blanks is left of the line. -/
def atLineEnd (cs : List Char) : Bool :=
  match cs.dropWhile isSpace with
  | [] => true
  | c :: _ => c == '\n'

/-- What follows the title, and the line there; an unfinished title takes in lines. -/
def finishTitle (r : Region) : Nat → Growing → TitleScan → Option (Part × Growing)
  | _, _, .none => none
  | _, g, .closed part => some (part, { g with rest := g.rest.drop part.used })
  | 0, _, .unfinished .. => none
  | fuel + 1, g, t =>
    match r.definitionLine? g.next with
    | some more => r.finishTitle fuel ⟨more, g.next + 1⟩ (t.continue more)
    | none => none

/-- A label, its destination and the line behind a definition that starts at line `n`. -/
def definition? (r : Region) (n : Nat) : Option (String × String × Nat) := do
  let l := r.line n
  let fuel := r.source.size + 1
  if r.isCode n then none
  match r.source.slice l.text (l.stop + 1) with
  | '[' :: body =>
    let (label, afterLabel) ← r.definitionLabel? fuel ⟨body, n + 1⟩ []
    match afterLabel.rest with
    | ':' :: rest =>
      let atDestination := r.skipBreaks fuel { afterLabel with rest }
      let destination ← destination? atDestination.rest
      let href ← href? destination.content
      let behind := { atDestination with rest := atDestination.rest.drop destination.used }
      let atTitle := r.skipBreaks fuel behind
      let apart := atTitle.rest.length != behind.rest.length || atTitle.next != behind.next
      let titled := r.finishTitle fuel atTitle ((scanTitle atTitle.rest).afterGap apart)
      let finish ← match titled with
        | some (title, after) =>
          if atLineEnd after.rest then some after.next
          else if title.content.isEmpty then none
          else if atLineEnd behind.rest then some behind.next else none
        | none => if atLineEnd behind.rest then some behind.next else none
      let name := normalLabel label
      if name = "" then none else some (name, href, finish)
    | _ => none
  | _ => none

def trimmed (cs : List Char) : String :=
  String.ofList (Text.trim isMargin cs)

/-- The text of a heading, without hash signs at its end that stand behind a blank. -/
def headingText (r : Region) (n i : Nat) : String :=
  let l := r.line n
  let last := r.source.skipBack isSpace i l.stop
  let cut := r.source.skipBack (· == '#') i last
  let stop := if i < cut && ((r.char? (cut - 1)).map isSpace).getD false then cut else last
  trimmed (r.source.slice i stop)

end Region

/-- Blocks with raw contents. -/
abbrev Outline := List (Block String)

/-- What was read: blocks, the line behind them, and the definitions so far. -/
structure Reading where
  blocks : Outline
  next : Nat
  definitions : Definitions

/-- Containers nest this deep. -/
def maxDepth : Nat := 20

/-- Reads the lines from one up to another as blocks of a container. -/
abbrev BlockReader := Region → (level start stop : Nat) → Definitions → Reading

/-- The items of a list from the one at line `n` on. -/
def readItems (inner : BlockReader) (r : Region) (level stop : Nat) :
    Nat → Nat → Region.Marker → Definitions → List Outline × Nat × Definitions
  | 0, n, _, defs => ([], n, defs)
  | fuel + 1, n, m, defs =>
    let region := r.item n m
    let result : Reading :=
      if region.isEmpty n && r.isEmpty (n + 1) then ⟨[], min (n + 2) stop, defs⟩
      else inner region (level + 2) n stop defs
    let next := if result.next < stop then r.nextItem? m result.next else none
    match next with
    | none => ([result.blocks], result.next, result.definitions)
    | some m' =>
      let (items, last, defs') := readItems inner r level stop fuel result.next m' result.definitions
      (result.blocks :: items, last, defs')

/-- The block that starts at line `n`; a definition is no block. -/
def readBlock (inner : BlockReader) (r : Region) (level n stop : Nat) (defs : Definitions) : Reading :=
  let fuel := r.lines.size + 1
  if r.isCode n then
    let last := r.codeEnd stop fuel (n + 1) (n + 1)
    ⟨[.code (String.ofList (r.text n last (4 + r.base) false ++ ['\n']))], last, defs⟩
  else if let some (mark, length) := r.fence? n then
    let (last, closed) := r.fenceEnd mark length stop fuel (n + 1)
    let content := r.text (n + 1) last (r.line n).indent true
    ⟨[.code (String.ofList content)], if closed then last + 1 else last, defs⟩
  else if r.isQuote n then
    let (region, last) := r.quote n stop
    let result := inner region (level + 1) n last defs
    ⟨[.quote result.blocks], result.next, result.definitions⟩
  else if r.isRule n then ⟨[.rule], n + 1, defs⟩
  else if let some m := r.listStart? n then
    let (items, last, defs') := readItems inner r level stop fuel n m defs
    ⟨[.list m.number.isSome items], last, defs'⟩
  else if let some (label, href, last) := r.definition? n then
    ⟨[], last, defs.define label href⟩
  else if let some (ending, _) := r.htmlStart? n then
    let l := r.line n
    let last := if ending.inLine (r.source.slice l.text l.stop) then n + 1
      else r.htmlEnd ending stop fuel (n + 1)
    ⟨[.html (String.ofList (r.text n last r.base true))], last, defs⟩
  else if let some (depth, i) := r.heading? n then
    ⟨[.heading depth (r.headingText n i)], n + 1, defs⟩
  else if let some (last, depth) := r.underlineFrom stop fuel (n + 1) then
    ⟨[.heading depth (Region.trimmed (r.text n last r.base false))], last + 1, defs⟩
  else
    let last := r.paragraphEnd fuel (n + 1)
    ⟨[.paragraph (Region.trimmed (r.text n last r.base false))], last, defs⟩

/-- Block after block, up to the line `stop` or to one that is outside of the container. -/
def readBlocks (inner : BlockReader) (r : Region) (level stop : Nat) :
    Nat → Nat → Definitions → Reading
  | 0, n, defs => ⟨[], n, defs⟩
  | fuel + 1, n, defs =>
    if stop ≤ n then ⟨[], n, defs⟩
    else
      let start := r.skipEmpty (r.lines.size + 1) n
      if stop ≤ start || r.isOutside start then ⟨[], start, defs⟩
      else if maxDepth ≤ level then ⟨[], stop, defs⟩
      else
        let first := readBlock inner r level start stop defs
        let next := if first.next < stop && r.isEmpty first.next then first.next + 1 else first.next
        let rest := readBlocks inner r level stop fuel next first.definitions
        { rest with blocks := first.blocks ++ rest.blocks }

/-- Reads containers down to `depth` levels. -/
def blockReader : Nat → BlockReader
  | 0 => fun _ _ _ stop defs => ⟨[], stop, defs⟩
  | depth + 1 => fun r level start stop defs =>
    readBlocks (blockReader depth) r level stop (r.lines.size + 1) start defs

/-- The blocks of a document with the definitions that it makes. -/
def outline (src : Source) : Outline × Definitions :=
  let r := Region.ofSource src
  let result := blockReader (maxDepth + 1) r 0 0 r.lines.size []
  (result.blocks, result.definitions)

end Docwright.Markdown
