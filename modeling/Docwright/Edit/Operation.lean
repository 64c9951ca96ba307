import Docwright.Style.Text

namespace Docwright.Edit

open Style

/-- The positions from `start` up to, and without, `stop`. -/
structure Span where
  start : Int
  stop : Int
  ordered : start ≤ stop

def Span.of (start stop : Int) : Except Refusal Span :=
  if h : start ≤ stop then .ok ⟨start, stop, h⟩ else .error (.invertedRange start stop)

def Span.isEmpty (s : Span) : Bool :=
  s.start == s.stop

def Span.toJson (s : Span) : Json :=
  .obj [("startIndex", .num (.int s.start)), ("endIndex", .num (.int s.stop))]

inductive Operation where
  | insertText (index : Int) (text : String)
  | nameParagraphs (span : Span) (style : String)
  | styleText (span : Span) (style : TextStyle) (fields : String)
  | createList (span : Span) (preset : String)
  | insertTable (index rows columns : Int)
  | insertPageBreak (index : Int)
  | delete (span : Span)
  | formatParagraphs (span : Span) (style : List (String × Json)) (fields : String)
  | replaceAll (find replacement : String) (matchCase : Bool)

/-- The text that an edit inserts. -/
def Operation.inserted? : Operation → Option String
  | .insertText _ text => some text
  | _ => none

def location (index : Int) : String × Json :=
  ("location", .obj [("index", .num (.int index))])

def Operation.request : Operation → Json
  | .insertText index text =>
    .obj [("insertText", .obj [location index, ("text", .str text)])]
  | .nameParagraphs span style =>
    .obj [("updateParagraphStyle", .obj [("range", span.toJson),
      ("paragraphStyle", .obj [("namedStyleType", .str style)]), ("fields", .str "namedStyleType")])]
  | .styleText span style fields =>
    .obj [("updateTextStyle", .obj [("range", span.toJson), ("textStyle", style.toJson),
      ("fields", .str fields)])]
  | .createList span preset =>
    .obj [("createParagraphBullets", .obj [("range", span.toJson), ("bulletPreset", .str preset)])]
  | .insertTable index rows columns =>
    .obj [("insertTable", .obj [location index, ("rows", .num (.int rows)),
      ("columns", .num (.int columns))])]
  | .insertPageBreak index =>
    .obj [("insertPageBreak", .obj [location index])]
  | .delete span =>
    .obj [("deleteContentRange", .obj [("range", span.toJson)])]
  | .formatParagraphs span style fields =>
    .obj [("updateParagraphStyle", .obj [("range", span.toJson), ("paragraphStyle", Json.ofPairs style),
      ("fields", .str fields)])]
  | .replaceAll find replacement matchCase =>
    .obj [("replaceAllText", .obj [
      ("containsText", .obj [("text", .str find), ("matchCase", .bool matchCase)]),
      ("replaceText", .str replacement)])]

def requests (ops : List Operation) : List Json :=
  ops.map Operation.request

end Docwright.Edit
