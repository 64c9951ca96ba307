import Docwright.Markdown.Character
import Docwright.Markdown.Tree

namespace Docwright.Markdown

/-- A mark of a run: one asterisk or underscore, or two tildes. -/
structure Delimiter where
  marker : Char
  /-- The length of the run; zero for tildes. -/
  length : Nat
  /-- The piece of text that holds the mark. -/
  piece : Nat
  opens : Bool
  closes : Bool
  /-- The mark that closes what this one opens. -/
  partner : Option Nat := none
deriving Inhabited

/-- What a run of marks can do, from the characters around it: it opens before a word and closes
behind one. Inside a word only some markers do either. -/
def runSides (before after : Char) (insideWords : Bool) : Bool × Bool :=
  let gapBefore := isWordGap before
  let gapAfter := isWordGap after
  let punctBefore := isPunct before
  let punctAfter := isPunct after
  let left := !(gapAfter || (punctAfter && !(gapBefore || punctBefore)))
  let right := !(gapBefore || (punctBefore && !(gapAfter || punctAfter)))
  (left && (insideWords || !right || punctBefore), right && (insideWords || !left || punctAfter))

/-- The state of pairing after some of the marks. `jumps` tells how many marks before one cannot
match any more; `bottoms` below which mark a kind of closing mark finds nothing. -/
structure Pairing where
  marks : Array Delimiter
  jumps : Array Nat := #[]
  bottoms : List ((Char × Nat) × Int) := []
  header : Nat := 0
  lastPiece : Int := -2

namespace Pairing

def mark (p : Pairing) (i : Nat) : Delimiter :=
  p.marks.getD i default

def jump (p : Pairing) (i : Nat) : Nat :=
  p.jumps.getD i 0

/-- Marks that both open and close do not match when their lengths add up to a multiple of three,
unless both lengths are such multiples. -/
def matching (opener closer : Delimiter) : Bool :=
  opener.opens && opener.partner.isNone &&
    !((opener.closes || closer.opens) && (opener.length + closer.length) % 3 == 0 &&
      (opener.length % 3 != 0 || closer.length % 3 != 0))

/-- The opening mark of a closing one, searched from `i` down to `bottom`. -/
def opener? (p : Pairing) (closer : Delimiter) (bottom : Int) : Nat → Int → Option Nat
  | 0, _ => none
  | fuel + 1, i =>
    if i ≤ bottom then none
    else
      let candidate := p.mark i.toNat
      if candidate.marker == closer.marker && matching candidate closer then some i.toNat
      else p.opener? closer bottom fuel (i - p.jump i.toNat - 1)

/-- Notes that `opener` and `closer` belong together. -/
def join (p : Pairing) (opener closer : Nat) : Pairing :=
  let last := if opener > 0 && !(p.mark (opener - 1)).opens then p.jump (opener - 1) + 1 else 0
  { p with
    jumps := (p.jumps.setIfInBounds closer (closer - opener + last)).setIfInBounds opener last
    marks := (p.marks.modify closer fun d => { d with opens := false }).modify opener fun d =>
      { d with partner := some closer, closes := false }
    lastPiece := -2 }

/-- Takes in the mark `i`, and finds its opening mark if it closes. -/
def step (p : Pairing) (i : Nat) : Pairing :=
  let closer := p.mark i
  let header := if (p.mark p.header).marker != closer.marker || p.lastPiece != (closer.piece : Int) - 1
    then i else p.header
  let p := { p with jumps := p.jumps.push 0, header, lastPiece := closer.piece }
  if !closer.closes then p
  else
    let slot := (closer.marker, (if closer.opens then 3 else 0) + closer.length % 3)
    let bottom := (p.bottoms.lookup slot).getD (-1)
    let first : Int := (header : Int) - p.jump header - 1
    match p.opener? closer bottom (i + 1) first with
    | some opener => p.join opener i
    | none => if first == -1 then p else { p with bottoms := (slot, first) :: p.bottoms }

end Pairing

/-- The marks with their partners. -/
def pairMarks (marks : Array Delimiter) : Array Delimiter :=
  ((List.range marks.size).foldl Pairing.step { marks }).marks

inductive Mark where
  | emphasis
  | strong
  | strike
deriving DecidableEq

def Mark.wrap (m : Mark) (children : List Inline) : Inline :=
  match m with
  | .emphasis => .emphasis children
  | .strong => .strong children
  | .strike => .strike children

/-- A piece of inline content before it is nested. -/
inductive Piece where
  | node (content : Inline)
  /-- Text that was written as an escape or by its name, and so is no mark. -/
  | escaped (text : String)
  | opening (m : Mark)
  | closing (m : Mark)

abbrev Pieces := Array Piece

def Piece.ofText (s : String) : Piece :=
  .node (.text s)

def isLoneTilde : Option Piece → Bool
  | some (.node (.text "~")) => true
  | _ => false

def isStrikeEnd : Option Piece → Bool
  | some (.closing .strike) => true
  | _ => false

/-- The last of the closing pieces that follow piece `i` without a gap. -/
def lastStrikeEnd (pieces : Pieces) : Nat → Nat → Nat
  | 0, i => i
  | fuel + 1, i => if isStrikeEnd pieces[i + 1]? then lastStrikeEnd pieces fuel (i + 1) else i

/-- A tilde left over from a run moves behind what the run closes. -/
def moveTilde (pieces : Pieces) (i : Nat) : Pieces :=
  pieces.swapIfInBounds i (lastStrikeEnd pieces pieces.size i)

def strikeMark (marks : Array Delimiter) (acc : Pieces × List Nat) (d : Delimiter) :
    Pieces × List Nat :=
  match d.marker, d.partner with
  | '~', some partner =>
    let stop := (marks.getD partner default).piece
    let pieces := (acc.1.setIfInBounds d.piece (.opening .strike)).setIfInBounds stop (.closing .strike)
    (pieces, if isLoneTilde pieces[stop - 1]? then (stop - 1) :: acc.2 else acc.2)
  | _, _ => acc

/-- Tildes that belong together become struck text. -/
def applyStrikes (marks : Array Delimiter) (pieces : Pieces) : Pieces :=
  let (done, lone) := marks.toList.foldl (strikeMark marks) (pieces, [])
  lone.foldl moveTilde done

/-- Two marks next to each other that close next to each other make strong emphasis. -/
def isStrong (marks : Array Delimiter) (i : Nat) (d : Delimiter) (partner : Nat) : Bool :=
  match i with
  | 0 => false
  | before + 1 =>
    let outer := marks.getD before default
    let stop := marks.getD partner default
    let outerStop := marks.getD (partner + 1) default
    outer.partner == some (partner + 1) && outer.marker == d.marker &&
      outer.piece + 1 == d.piece && outerStop.piece == stop.piece + 1

/-- Turns marks into emphasis, from mark `i - 1` down. -/
def applyEmphasis (marks : Array Delimiter) : Nat → Pieces → Pieces
  | 0, pieces => pieces
  | i + 1, pieces =>
    let d := marks.getD i default
    match d.partner with
    | none => applyEmphasis marks i pieces
    | some partner =>
      if d.marker == '~' then applyEmphasis marks i pieces
      else
        let stop := (marks.getD partner default).piece
        let put := fun (m : Mark) =>
          (pieces.setIfInBounds d.piece (.opening m)).setIfInBounds stop (.closing m)
        match i with
        | before + 1 =>
          if isStrong marks (before + 1) d partner then
            applyEmphasis marks before (((put .strong).setIfInBounds (d.piece - 1) (.ofText ""))
              |>.setIfInBounds (stop + 1) (.ofText ""))
          else applyEmphasis marks (before + 1) (put .emphasis)
        | 0 => applyEmphasis marks 0 (put .emphasis)

/-- Escaped characters become text, and adjacent texts become one. -/
def mergeTexts : List Piece → List Piece
  | [] => []
  | p :: ps =>
    let first : Piece := match p with
      | .escaped s => .ofText s
      | other => other
    match first, mergeTexts ps with
    | .node (.text s), .node (.text t) :: rest => .ofText (s ++ t) :: rest
    | q, rest => q :: rest

/-- Nests what stands between opening and closing pieces. `stack` holds the marks that are open,
each with what stands before it, in reverse. -/
def nestPieces : List Piece → List (Mark × List Inline) → List Inline → List Inline
  | [], [], acc => acc.reverse
  | [], (m, before) :: outer, acc => nestPieces [] outer (m.wrap acc.reverse :: before)
  | .node i :: rest, stack, acc => nestPieces rest stack (i :: acc)
  | .escaped s :: rest, stack, acc => nestPieces rest stack (.text s :: acc)
  | .opening m :: rest, stack, acc => nestPieces rest ((m, acc) :: stack) []
  | .closing _ :: rest, (m, before) :: outer, acc =>
    nestPieces rest outer (m.wrap acc.reverse :: before)
  | .closing _ :: rest, [], acc => nestPieces rest [] acc

/-- The inline content that pieces with marks stand for. -/
def nestMarks (pieces : Pieces) (marks : Array Delimiter) : List Inline :=
  let paired := pairMarks marks
  let applied := applyEmphasis paired paired.size (applyStrikes paired pieces)
  nestPieces (mergeTexts applied.toList) [] []

end Docwright.Markdown
