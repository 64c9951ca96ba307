import Docwright.Edit.Builder
import Docwright.Table.Job
import Docwright.Template.Basic

namespace Docwright.Template

open Edit Style

/-- A batch in the making: the tables it creates, and whether content that comes now would stand
before a table that precedes it in the template. -/
structure Progress where
  builder : Builder
  jobs : List Table.Job := []
  afterTable : Bool := false
  warnings : List String := []

abbrev Building := Except Refusal

def reorderWarning : String :=
  "Template content follows a table in the same batch; it is inserted at the table's index and " ++
    "will appear before the table"

/-- A table stays where it was inserted, so content after it is inserted before it. One warning is
given for each table that this happens to first. -/
def Progress.passTable (p : Progress) : Progress :=
  if p.afterTable then { p with afterTable := false, warnings := p.warnings ++ [reorderWarning] }
  else p

def styleCharacters (b : Builder) (start stop : Int) (f : TextFormat) : Building Builder :=
  match f.textStyle? with
  | some style => b.styleText start stop style
  | none => .ok b

/-- Sets the format of paragraphs; a format without fields sets nothing. -/
def formatLines (b : Builder) (start stop : Int) (f : ParagraphFormat) : Building Builder :=
  b.formatParagraphs start stop f.fields (maskOf f.fields)

/-- Inserts a text with its paragraph style, the format of its characters and its alignment. -/
def writeText (b : Builder) (text : String) (f : TextFormat) : Building Builder := do
  let inserted := b.insertText text
  let named ← match f.namedStyle with
    | some style => inserted.nameParagraphs b.cursor inserted.cursor style.paragraphStyle
    | none => .ok inserted
  let styled ← styleCharacters named b.cursor inserted.cursor f
  match f.alignment with
  | some a => formatLines styled b.cursor inserted.cursor { alignment := some a }
  | none => .ok styled

/-- Inserts a paragraph for each item and makes a list of them. -/
def writeList (b : Builder) (kind : ListKind) (items : List String) (indent : Int) :
    Building Builder := do
  let inserted := b.insertText (String.join (items.map (· ++ "\n")))
  let listed ← inserted.createList b.cursor inserted.cursor kind.preset
  if 0 < indent then formatLines listed b.cursor inserted.cursor (.indented indent)
  else .ok listed

def writeTitle (b : Builder) (t : Title) : Building Builder := do
  let inserted := b.insertText (t.text ++ "\n\n")
  let named ← inserted.nameParagraphs b.cursor inserted.cursor
    (t.format.namedStyle.getD .title).paragraphStyle
  styleCharacters named b.cursor inserted.cursor t.format

def writeHeading (b : Builder) (s : Section) : Building Builder :=
  let inserted := b.insertText (s.heading ++ "\n")
  inserted.nameParagraphs b.cursor inserted.cursor (s.style.getD .heading2).paragraphStyle

def createTable (p : Progress) (rows columns : Int) (headers : List String)
    (data : List (List String)) : Building Progress := do
  let b ← p.builder.insertTable rows columns
  return { p with builder := b, jobs := p.jobs ++ [{ rows, columns, headers, data }], afterTable := true }

def writeContent (b : Builder) : Element → Building Builder
  | .text content format => writeText b (content ++ "\n") format
  | .list kind items indent => writeList b kind items indent
  | .table .. => .ok b
  | .pageBreak => .ok b.insertPageBreak
  | .rule => .ok b.insertRule

def writeElement (p : Progress) : Element → Building Progress
  | .table rows columns headers data => createTable p rows columns headers data
  | element => do
    let noted := p.passTable
    return { noted with builder := ← writeContent noted.builder element }

def writeSection (p : Progress) (s : Section) : Building Progress := do
  let noted := p.passTable
  let headed := { noted with builder := ← writeHeading noted.builder s }
  s.content.foldlM writeElement headed

structure Compiled where
  operations : List Operation
  jobs : List Table.Job
  warnings : List String

end Docwright.Template

namespace Docwright

open Template in
/-- Title first, then each section's heading with its content, then the other elements. -/
def Template.compile (t : Template) (start : Int) : Except Refusal Compiled := do
  let b ← Edit.Builder.start start
  let titled ← match t.title with
    | some title => writeTitle b title
    | none => .ok b
  let withSections ← t.sections.foldlM writeSection { builder := titled }
  let done ← t.elements.foldlM writeElement withSections
  return { operations := done.builder.operations, jobs := done.jobs, warnings := done.warnings }

end Docwright
