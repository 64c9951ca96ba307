import Docwright.Style.Text

namespace Docwright.Template

open Style

/-- A colour with the text it was given as. -/
structure WrittenColor where
  written : String
  color : Color

/-- How a text is set. A size of zero and an empty family leave size and family alone. -/
structure TextFormat where
  bold : Bool := false
  italic : Bool := false
  underline : Bool := false
  strikethrough : Bool := false
  fontSize : Int := 0
  fontFamily : String := ""
  color : Option WrittenColor := none
  background : Option WrittenColor := none
  namedStyle : Option NamedStyle := none
  alignment : Option TextAlignment := none

inductive Element where
  | text (content : String) (format : TextFormat)
  | list (kind : ListKind) (items : List String) (indent : Int)
  | table (rows columns : Int) (headers : List String) (data : List (List String))
  | pageBreak
  | rule

structure Title where
  text : String
  format : TextFormat

structure Section where
  heading : String
  style : Option NamedStyle
  content : List Element

end Docwright.Template

namespace Docwright

structure Template where
  title : Option Template.Title
  sections : List Template.Section
  elements : List Template.Element

namespace Template.TextFormat

open Style

/-- The format of the characters, if any attribute of them is set. -/
def textStyle? (f : TextFormat) : Option TextStyle :=
  let on := fun b => if b then some true else none
  let style : TextStyle := {
    bold := on f.bold, italic := on f.italic, underline := on f.underline,
    strikethrough := on f.strikethrough,
    fontSize := if f.fontSize = 0 then none else some (.int f.fontSize)
    fontFamily := if f.fontFamily = "" then none else some f.fontFamily
    foreground := f.color.map (·.color), background := f.background.map (·.color) }
  if style.isEmpty then none else some style

end Template.TextFormat

end Docwright
