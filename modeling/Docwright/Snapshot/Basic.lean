import Docwright.Json.Basic

namespace Docwright.Snapshot

/-- A cell holds the positions of its content elements, each if it is given. -/
abbrev Cell := List (Option Int)

structure Grid where
  rows : Option Int
  columns : Option Int
  cells : List (List Cell)

structure Paragraph where
  style : String
  texts : List String

structure Element where
  start : Option Int
  stop : Option Int
  paragraph : Option Paragraph
  grid : Option Grid

def integer (v : Json) (name : String) : Option Int :=
  (v.get? name).bind Json.int?

def list (v : Json) (name : String) : List Json :=
  ((v.get? name).map Json.items).getD []

def cellOfJson (v : Json) : Cell :=
  (list v "content").map (integer · "startIndex")

def gridOfJson (v : Json) : Grid where
  rows := integer v "rows"
  columns := integer v "columns"
  cells := (list v "tableRows").map fun row => (list row "tableCells").map cellOfJson

def paragraphOfJson (v : Json) : Paragraph where
  style := (((v.get? "paragraphStyle").bind (·.get? "namedStyleType")).bind Json.str?).getD ""
  texts := (list v "elements").map fun e =>
    (((e.get? "textRun").bind (·.get? "content")).bind Json.str?).getD ""

def elementOfJson (v : Json) : Element where
  start := integer v "startIndex"
  stop := integer v "endIndex"
  paragraph := (v.value? "paragraph").map paragraphOfJson
  grid := (v.get? "table").map gridOfJson

end Docwright.Snapshot

namespace Docwright

/-- The structural elements of the body, in order. -/
abbrev Snapshot := List Snapshot.Element

namespace Snapshot

def ofJson (document : Json) : Snapshot :=
  (list ((document.get? "body").getD .null) "content").map elementOfJson

/-- Where appended content lands: before the final line break, which nothing can follow. -/
def endIndex (s : Snapshot) : Int :=
  match s.getLast? with
  | none => 1
  | some e => max (e.stop.getD 1 - 1) 1

end Snapshot

end Docwright
