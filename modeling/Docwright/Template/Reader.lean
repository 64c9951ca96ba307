import Docwright.Failure.Basic
import Docwright.Json.Reader
import Docwright.Template.Basic
import Docwright.Template.Value

/-!
Reading templates. A template is checked as a whole, and one that breaks any rule is refused with
all that was found.
-/

namespace Docwright.Template

open Style Checked

def readWrittenColor (v : Json) : Checked (Option WrittenColor) :=
  (readString v).andThen fun s =>
    (ofRefusal (readOptionalColor s)).andThen fun color => .ok (color.map (⟨s, ·⟩))

def readFontSize (v : Json) : Checked Int :=
  (readInt v).andThen fun n => (ofRefusal (checkFontSize (.int n))).andThen fun _ => .ok n

def readNamedStyle (v : Json) : Checked (Option NamedStyle) :=
  (readString v).andThen fun s => ofRefusal (NamedStyle.read s)

def readAlignment (v : Json) : Checked (Option TextAlignment) :=
  (readString v).andThen fun s => ofRefusal (TextAlignment.read s)

def formatNames : List String :=
  ["bold", "italic", "underline", "strikethrough", "font_size", "font_family", "color", "bg_color",
    "named_style", "alignment"]

def readFormat : Json → Checked TextFormat :=
  readObject "TemplateStyle" formatNames fun ms =>
    TextFormat.mk <$> optional ms "bold" false readBool
      <*> optional ms "italic" false readBool
      <*> optional ms "underline" false readBool
      <*> optional ms "strikethrough" false readBool
      <*> optional ms "font_size" 0 readFontSize
      <*> optional ms "font_family" "" readString
      <*> optional ms "color" none readWrittenColor
      <*> optional ms "bg_color" none readWrittenColor
      <*> optional ms "named_style" none readNamedStyle
      <*> optional ms "alignment" none readAlignment

def readTitleText : Json → Checked Title :=
  readObject "TemplateText" ["text", "style"] fun ms =>
    Title.mk <$> required ms "text" readString <*> optional ms "style" {} readFormat

inductive ElementKind where
  | text | list | table | pageBreak | rule
deriving DecidableEq

namespace ElementKind

def all : List ElementKind :=
  [.text, .list, .table, .pageBreak, .rule]

def name : ElementKind → String
  | .text => "text"
  | .list => "list"
  | .table => "table"
  | .pageBreak => "pagebreak"
  | .rule => "hr"

/-- The members that an element of a kind may have. -/
def names : ElementKind → List String
  | .text => ["type", "text", "style"]
  | .list => ["type", "list_type", "items", "indent"]
  | .table => ["type", "rows", "columns", "headers", "table_data"]
  | .pageBreak | .rule => ["type"]

def read (v : Json) : Checked ElementKind :=
  let known := match v with
    | .str s => all.find? (·.name = s)
    | _ => none
  match known with
  | some k => .ok k
  | none => fail "Input should be 'text', 'list', 'table', 'pagebreak' or 'hr'"

end ElementKind

/-- The members that elements may have, in the order in which they are checked. -/
def elementNames : List String :=
  ["type", "text", "style", "list_type", "items", "indent", "rows", "columns", "headers",
    "table_data"]

/-- The members of an element, before it is known whether they go together. -/
structure RawElement where
  kind : ElementKind
  text : String
  format : TextFormat
  listKind : String
  items : List String
  indent : Int
  rows : Int
  columns : Int
  headers : List String
  data : List (List String)

def readRawElement (ms : List (String × Json)) : Checked RawElement :=
  RawElement.mk <$> required ms "type" ElementKind.read
    <*> optional ms "text" "" readString
    <*> optional ms "style" {} readFormat
    <*> optional ms "list_type" "" readString
    <*> optional ms "items" [] (readList readString)
    <*> optional ms "indent" 0 readInt
    <*> optional ms "rows" 0 readInt
    <*> optional ms "columns" 0 readInt
    <*> optional ms "headers" [] (readList readString)
    <*> optional ms "table_data" [] (readList (readList readString))

def checkList (raw : RawElement) : Except Refusal Element := do
  let kind ← ListKind.read raw.listKind
  checkItems raw.items
  checkIndent raw.indent
  return .list kind raw.items raw.indent

/-- The members of an element that its kind does not have, sorted. -/
def misplaced (kind : ElementKind) (ms : List (String × Json)) : List String :=
  ((ms.map (·.1)).filter fun n => !kind.names.contains n).mergeSort (· ≤ ·)

def settleElement (ms : List (String × Json)) (raw : RawElement) : Checked Element :=
  let others := misplaced raw.kind ms
  if others.isEmpty then
    match raw.kind with
    | .text => .ok (.text raw.text raw.format)
    | .list => ofRefusal (checkList raw)
    | .table =>
      if raw.rows < 1 ∨ raw.columns < 1 then
        fail "Value error, table rows and columns must be at least 1"
      else .ok (.table raw.rows raw.columns raw.headers raw.data)
    | .pageBreak => .ok .pageBreak
    | .rule => .ok .rule
  else
    fail s!"Value error, fields not allowed for {raw.kind.name} element: {quoteList others}"

def readElement (v : Json) : Checked Element :=
  (readObject "TemplateElement" elementNames readRawElement v).andThen (settleElement v.members)

def readHeadingText (v : Json) : Checked String :=
  (readString v).andThen fun s =>
    if Text.allBlank s then fail "Value error, section heading cannot be empty" else .ok s

def readSection : Json → Checked Section :=
  readObject "TemplateSection" ["heading", "style", "content"] fun ms =>
    Section.mk <$> required ms "heading" readHeadingText
      <*> optional ms "style" none readNamedStyle
      <*> optional ms "content" [] (readList readElement)

def readTitle : Json → Checked (Option Title)
  | .null => .ok none
  | v => some <$> readTitleText v

def readTemplate : Json → Checked Template :=
  readObject "DocumentTemplate" ["title", "sections", "elements"] fun ms =>
    Template.mk <$> optional ms "title" none readTitle
      <*> optional ms "sections" [] (readList readSection)
      <*> optional ms "elements" [] (readList readElement)

/-- Why a value describes no template. One that holds an integer of too many digits is not even
read, and one with unpaired surrogates has texts that are none. -/
inductive Invalid where
  | syntaxError (message : String)
  | rules (findings : List Finding)
  | longInteger (digits : Nat)
  | unpaired (value : Json)

def Invalid.ofUnread : Json.Unread → Invalid
  | .syntaxError m => .syntaxError m
  | .longInteger digits => .longInteger digits
  | .unpaired value => .unpaired value

def Invalid.message : Invalid → String
  | .syntaxError m => s!"Invalid template: failed to parse template JSON: {m}"
  | .rules findings =>
    s!"Invalid template: {findingList findings}"
  | .longInteger digits => (Refusal.longInteger digits).message
  | .unpaired value => (Json.Unread.unpaired value).message
where
  findingList (findings : List Finding) : String :=
    String.intercalate "; " (findings.map (·.text))

/-- The findings; a text that is no JSON is one finding. -/
def Invalid.errors : Invalid → List String
  | .rules findings => findings.map (·.text)
  | i => [i.message]

def Invalid.toFailure : Invalid → Failure
  | .longInteger digits => .refused (.longInteger digits)
  | i => .template i.message i.errors

end Docwright.Template

namespace Docwright

/-- The template that a value describes; a text holds the value as JSON. -/
def Template.ofJson (v : Json) : Except Template.Invalid Template := do
  let value ← match v with
    | .str s => (Json.ofText s).mapError .ofUnread
    | _ => pure v
  (Template.readTemplate value).toExcept.mapError .rules

end Docwright
