import Docwright.Style.Named

namespace Docwright.Style

/-- Lengths are in points, the line spacing is a multiple of the line height. -/
structure ParagraphFormat where
  alignment : Option TextAlignment := none
  indentStart : Number := 0
  indentEnd : Number := 0
  indentFirstLine : Number := 0
  lineSpacing : Number := 0
  spaceAbove : Number := 0
  spaceBelow : Number := 0

def points (n : Number) : Json :=
  .obj [("magnitude", .num n), ("unit", .str "PT")]

/-- A length that is not above zero is left out. -/
def lengthField (name : String) (n : Number) : List (String × Json) :=
  if Number.lt 0 n then [(name, points n)] else []

/-- The fields that are set. The first line may hang out, so only zero leaves its indent out; the
line spacing is written as a percentage. -/
def ParagraphFormat.fields (f : ParagraphFormat) : List (String × Json) :=
  (match f.alignment with
    | some a => [("alignment", Json.str a.direction)]
    | none => []) ++
  lengthField "indentStart" f.indentStart ++
  lengthField "indentEnd" f.indentEnd ++
  (if f.indentFirstLine.isZero then [] else [("indentFirstLine", points f.indentFirstLine)]) ++
  (if Number.lt 0 f.lineSpacing then [("lineSpacing", Json.num (f.lineSpacing * 100))] else []) ++
  lengthField "spaceAbove" f.spaceAbove ++
  lengthField "spaceBelow" f.spaceBelow

def pointsPerIndent : Int := 36

/-- A list indented by whole levels. -/
def ParagraphFormat.indented (levels : Int) : ParagraphFormat :=
  { indentStart := .int (levels * pointsPerIndent) }

/-- The names of the fields, as an update names what it sets. -/
def maskOf (fields : List (String × Json)) : String :=
  String.intercalate "," (fields.map (·.1))

end Docwright.Style
