import Docwright.Markdown.Document
import Docwright.Markdown.Styled
import Docwright.Text.Blank

namespace Docwright.Markdown

open Edit

abbrev Building := Except Refusal Builder

def headingStyle (level : Nat) : String :=
  if 1 ≤ level ∧ level ≤ 6 then s!"HEADING_{level}" else "HEADING_1"

def bulletPreset : String := "BULLET_DISC_CIRCLE_SQUARE"
def numberPreset : String := "NUMBERED_DECIMAL_ALPHA_ROMAN"
def checkboxPreset : String := "BULLET_CHECKBOX"

def writeHeading (font : String) (b : Builder) (level : Nat) (content : List Inline) : Building := do
  let styled := InlineRules.styled { codeFont := font } content
  let inserted := b.insertText (styled.text ++ "\n")
  let named ← inserted.nameParagraphs b.cursor inserted.cursor (headingStyle level)
  styled.apply b.cursor named

/-- A paragraph without text writes nothing. -/
def writeParagraph (font : String) (b : Builder) (content : List Inline) : Building :=
  let styled := InlineRules.styled { codeFont := font } content
  if styled.text = "" then .ok b else styled.apply b.cursor (b.insertText (styled.text ++ "\n"))

def writeCode (font : String) (b : Builder) (content : String) : Building :=
  if content = "" then .ok b
  else do
    let inserted := b.insertText content
    let styled ← inserted.styleText b.cursor inserted.cursor (.ofFont font)
    return styled.insertText "\n"

abbrev Item := List (Block (List Inline))

def Item.paragraphs (item : Item) : List (List Inline) :=
  item.filterMap fun
    | .paragraph content => some content
    | _ => none

/-- An item is a task when its first paragraph starts with a checkbox. -/
def Item.isTask (item : Item) : Bool :=
  match item.paragraphs with
  | (.html s :: _) :: _ => isCheckboxHtml s
  | _ => false

/-- The paragraphs of an item; what is nested deeper is left out. -/
def Item.text (rules : InlineRules) (item : Item) : String :=
  String.intercalate " " ((item.paragraphs.map fun c => (rules.styled c).text).filter (· ≠ ""))

/-- The line of an item. The boxes of a list of tasks are shown by the list itself. -/
def Item.line (font : String) (tasks : Bool) (item : Item) : String :=
  let text := item.text { codeFont := font, keepCheckboxes := !tasks }
  (if tasks then Text.stripLeft text else text) ++ "\n"

def listPreset (ordered tasks : Bool) : String :=
  if tasks then checkboxPreset else if ordered then numberPreset else bulletPreset

def writeList (font : String) (b : Builder) (ordered : Bool) (items : List Item) : Building :=
  if items.isEmpty then .ok b
  else
    let tasks := items.all Item.isTask
    let inserted := b.insertText (String.join (items.map (Item.line font tasks)))
    inserted.createList b.cursor inserted.cursor (listPreset ordered tasks)

mutual

/-- Writes a block. A quote writes what it holds, and a block of HTML writes nothing. -/
def writeBlock (font : String) (b : Builder) : Block (List Inline) → Building
  | .heading level content => writeHeading font b level content
  | .paragraph content => writeParagraph font b content
  | .list ordered items => writeList font b ordered items
  | .code content => writeCode font b content
  | .rule => .ok b.insertRule
  | .quote children => writeBlocks font b children
  | .html _ => .ok b

def writeBlocks (font : String) (b : Builder) : List (Block (List Inline)) → Building
  | [] => .ok b
  | block :: rest => do
    let next ← writeBlock font b block
    writeBlocks font next rest

end

/-- The edits that insert a document at a position. -/
def Document.compile (font : String) (start : Int) (d : Document) :
    Except Refusal (List Operation) := do
  let b ← Builder.start start
  let done ← writeBlocks font b d
  return done.operations

/-- Blank text makes no edits, wherever it goes. -/
def compile (font : String) (text : String) (start : Int) : Except Refusal (List Operation) :=
  if Text.allBlank text then .ok [] else (Document.read text).compile font start

end Docwright.Markdown
