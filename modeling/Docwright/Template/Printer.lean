import Docwright.Template.Reader

namespace Docwright.Template

open Style

def colorJson (c : Option WrittenColor) : Json :=
  .str ((c.map (·.written)).getD "")

def TextFormat.toJson (f : TextFormat) : Json :=
  .obj [("bold", .bool f.bold), ("italic", .bool f.italic), ("underline", .bool f.underline),
    ("strikethrough", .bool f.strikethrough), ("font_size", .num (.int f.fontSize)),
    ("font_family", .str f.fontFamily), ("color", colorJson f.color),
    ("bg_color", colorJson f.background),
    ("named_style", .str ((f.namedStyle.map (·.name)).getD "")),
    ("alignment", .str ((f.alignment.map (·.name)).getD ""))]

def RawElement.toJson (e : RawElement) : Json :=
  let texts := fun (xs : List String) => Json.arr (xs.map .str)
  .obj [("type", .str e.kind.name), ("text", .str e.text), ("style", e.format.toJson),
    ("list_type", .str e.listKind), ("items", texts e.items), ("indent", .num (.int e.indent)),
    ("rows", .num (.int e.rows)), ("columns", .num (.int e.columns)), ("headers", texts e.headers),
    ("table_data", .arr (e.data.map texts))]

/-- An element with nothing but its kind. -/
def RawElement.blank (kind : ElementKind) : RawElement :=
  { kind, text := "", format := {}, listKind := "", items := [], indent := 0, rows := 0,
    columns := 0, headers := [], data := [] }

def Element.raw : Element → RawElement
  | .text content format => { RawElement.blank .text with text := content, format }
  | .list kind items indent => { RawElement.blank .list with listKind := kind.name, items, indent }
  | .table rows columns headers data =>
    { RawElement.blank .table with rows, columns, headers, data }
  | .pageBreak => .blank .pageBreak
  | .rule => .blank .rule

def Element.toJson (e : Element) : Json :=
  e.raw.toJson

def Title.toJson (t : Title) : Json :=
  .obj [("text", .str t.text), ("style", t.format.toJson)]

def Section.toJson (s : Section) : Json :=
  .obj [("heading", .str s.heading), ("style", .str ((s.style.map (·.name)).getD "")),
    ("content", .arr (s.content.map Element.toJson))]

def toJson (t : Template) : Json :=
  .obj [("title", (t.title.map Title.toJson).getD .null),
    ("sections", .arr (t.sections.map Section.toJson)),
    ("elements", .arr (t.elements.map Element.toJson))]

end Docwright.Template
