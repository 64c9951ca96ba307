import Docwright.Style.Check
import Docwright.Style.Paragraph

/-!
The format of characters. An attribute that is not set is left alone.
-/

namespace Docwright.Style

structure TextStyle where
  bold : Option Bool := none
  italic : Option Bool := none
  underline : Option Bool := none
  strikethrough : Option Bool := none
  fontSize : Option Number := none
  fontFamily : Option String := none
  foreground : Option Color := none
  background : Option Color := none
  link : Option String := none

namespace TextStyle

def colorField (c : Color) : Json :=
  .obj [("color", .obj [("rgbColor", c.toJson)])]

/-- The attributes that are set, in a fixed order. -/
def fields (s : TextStyle) : List (String × Json) :=
  List.filterMap id [
    s.bold.map fun b => ("bold", .bool b),
    s.italic.map fun b => ("italic", .bool b),
    s.underline.map fun b => ("underline", .bool b),
    s.strikethrough.map fun b => ("strikethrough", .bool b),
    s.fontSize.map fun n => ("fontSize", points n),
    s.fontFamily.map fun f => ("weightedFontFamily", .obj [("fontFamily", .str f)]),
    s.foreground.map fun c => ("foregroundColor", colorField c),
    s.background.map fun c => ("backgroundColor", colorField c),
    s.link.map fun url => ("link", .obj [("url", .str url)])]

def isEmpty (s : TextStyle) : Bool :=
  s.fields.isEmpty

def mask (s : TextStyle) : String :=
  maskOf s.fields

def toJson (s : TextStyle) : Json :=
  .obj s.fields

def boldface : TextStyle := { bold := some true }
def italics : TextStyle := { italic := some true }
def struck : TextStyle := { strikethrough := some true }
def ofFont (font : String) : TextStyle := { fontFamily := some font }
def ofLink (url : String) : TextStyle := { link := some url }

/-- The style with the attributes of an object; the foreground is checked before the background. -/
def ofJson (v : Json) : Except Refusal TextStyle := do
  let foreground ← readColor "foreground_color" ((v.get? "foreground_color").getD .null)
  let background ← readColor "background_color" ((v.get? "background_color").getD .null)
  let flag := fun name => (v.get? name).bind Json.bool?
  let text := fun name => (v.get? name).bind Json.str?
  return {
    bold := flag "bold", italic := flag "italic", underline := flag "underline",
    strikethrough := flag "strikethrough", fontSize := (v.get? "font_size").bind Json.num?,
    fontFamily := text "font_family", foreground, background, link := text "link_url" }

end TextStyle

end Docwright.Style
