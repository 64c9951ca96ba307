import Docwright.Markdown.Character

namespace Docwright.Markdown

abbrev Source := Array Char

/-- The characters from `start` up to `stop`. -/
def Source.slice (src : Source) (start stop : Nat) : List Char :=
  (src.extract start stop).toList

/-- Skips characters that pass, from `i` on, at most up to `stop`. -/
def Source.skipWhile (src : Source) (p : Char → Bool) (stop : Nat) : Nat → Nat → Nat
  | 0, i => i
  | fuel + 1, i =>
    match src[i]? with
    | some c => if i < stop && p c then src.skipWhile p stop fuel (i + 1) else i
    | none => i

/-- The first place from `i` up to `stop` whose character does not pass. -/
def Source.skip (src : Source) (p : Char → Bool) (i stop : Nat) : Nat :=
  src.skipWhile p stop (stop - i) i

/-- The place behind the last character before `i`, and from `least` on, that does not pass. -/
def Source.skipBack (src : Source) (p : Char → Bool) (least : Nat) : Nat → Nat
  | 0 => 0
  | i + 1 =>
    if i + 1 ≤ least then i + 1
    else match src[i]? with
      | some c => if p c then src.skipBack p least i else i + 1
      | none => i + 1

/-- A line without the marks of the containers around it. Columns count a tab as the way to the
next multiple of four. -/
structure Line where
  start : Nat
  stop : Nat
  /-- Characters of indentation. -/
  margin : Nat
  /-- Columns of indentation; negative for a line that only continues a paragraph. -/
  indent : Int
  /-- Columns before `start`, as far as tabs depend on them. -/
  column : Int

def Line.text (l : Line) : Nat :=
  l.start + l.margin

def Line.isEmpty (l : Line) : Bool :=
  l.stop ≤ l.text

/-- Columns up to the tab stop after `column`. -/
def tabWidth (column : Int) : Int :=
  4 - column % 4

/-- The first place from `i` on that is no blank, and the column there; `shift` is added to a
column before tabs are measured. -/
def skipIndent (src : Source) (stop : Nat) (shift : Int) : Nat → Nat → Int → Nat × Int
  | 0, i, column => (i, column)
  | fuel + 1, i, column =>
    if stop ≤ i then (i, column)
    else match src[i]? with
      | some '\t' => skipIndent src stop shift fuel (i + 1) (column + tabWidth (column + shift))
      | some ' ' => skipIndent src stop shift fuel (i + 1) (column + 1)
      | _ => (i, column)

/-- Splits the source at line breaks. A last line of blanks only is no line. -/
def splitLines (src : Source) : Nat → Nat → Array Line → Array Line
  | 0, _, acc => acc
  | fuel + 1, start, acc =>
    if src.size ≤ start then acc
    else
      let stop := src.skip (· != '\n') start src.size
      let (text, indent) := skipIndent src stop 0 (stop - start) start 0
      if stop == src.size && text == stop then acc
      else splitLines src fuel (stop + 1) (acc.push ⟨start, stop, text - start, indent, 0⟩)

/-- The lines that a container holds, and the columns at which its content starts. -/
structure Region where
  source : Source
  lines : Array Line
  /-- No paragraph goes on past this line. -/
  limit : Nat
  base : Int := 0
  /-- The columns of the list around the innermost one. -/
  listBase : Option Int := none

namespace Region

def ofSource (src : Source) : Region :=
  let lines := splitLines src (src.size + 1) 0 #[]
  { source := src, lines, limit := lines.size }

/-- There is an empty line behind the last one. -/
def line (r : Region) (n : Nat) : Line :=
  r.lines.getD n ⟨r.source.size, r.source.size, 0, 0, 0⟩

def isEmpty (r : Region) (n : Nat) : Bool :=
  (r.line n).isEmpty

def char? (r : Region) (i : Nat) : Option Char :=
  r.source[i]?

/-- Four columns of indentation make a line code. -/
def isCode (r : Region) (n : Nat) : Bool :=
  (r.line n).indent - r.base ≥ 4

def isOutside (r : Region) (n : Nat) : Bool :=
  (r.line n).indent < r.base

def skipEmpty (r : Region) : Nat → Nat → Nat
  | 0, n => n
  | fuel + 1, n => if n < r.limit && r.isEmpty n then r.skipEmpty fuel (n + 1) else n

/-- Cuts up to `indent` columns of indentation; the place reached and the columns cut. -/
def cutIndent (src : Source) (l : Line) (last : Nat) (indent : Int) : Nat → Nat → Int → Nat × Int
  | 0, i, cut => (i, cut)
  | fuel + 1, i, cut =>
    if last ≤ i || indent ≤ cut then (i, cut)
    else match src[i]? with
      | some '\t' => cutIndent src l last indent fuel (i + 1) (cut + tabWidth (cut + l.column))
      | some ' ' => cutIndent src l last indent fuel (i + 1) (cut + 1)
      | some _ =>
        if i - l.start < l.margin then cutIndent src l last indent fuel (i + 1) (cut + 1)
        else (i, cut)
      | none => (i, cut)

/-- A line without `indent` columns of indentation; a tab that is cut in two leaves spaces. -/
def lineText (r : Region) (n : Nat) (indent : Int) (keepBreak : Bool) : List Char :=
  let l := r.line n
  let last := if keepBreak then l.stop + 1 else l.stop
  let (i, cut) := cutIndent r.source l last indent (last - l.start) l.start 0
  List.replicate (cut - indent).toNat ' ' ++ r.source.slice i last

/-- The lines from `start` up to `stop`, joined. -/
def text (r : Region) (start stop : Nat) (indent : Int) (keepLastBreak : Bool) : List Char :=
  (List.range (stop - start)).flatMap fun k =>
    r.lineText (start + k) indent (start + k + 1 < stop || keepLastBreak)

end Region

end Docwright.Markdown
