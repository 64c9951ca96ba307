import Docwright.Markdown.Outline
import Docwright.Markdown.Phrase

/-!
Reading Markdown. An item of a list whose first paragraph starts with brackets around a blank or a
cross is a task: a checkbox, written as HTML, takes the place of the brackets.
-/

namespace Docwright.Markdown

abbrev Document := List (Block (List Inline))

def isBoxGap (c : Char) : Bool :=
  c == ' ' || (9 ≤ c.toNat && c.toNat ≤ 13)

def startsTask (cs : List Char) : Bool :=
  match cs with
  | '[' :: mark :: ']' :: gap :: _ =>
    (mark == ' ' || mark == 'x' || mark == 'X') && isBoxGap gap
  | _ => false

def openBox : String :=
  "<input class=\"task-list-item-checkbox\" disabled=\"disabled\" type=\"checkbox\">"

def checkedBox : String :=
  "<input class=\"task-list-item-checkbox\" checked=\"checked\" disabled=\"disabled\" type=\"checkbox\">"

/-- Only a space behind the brackets gives a box. -/
def boxFor (cs : List Char) : String :=
  match cs with
  | '[' :: mark :: ']' :: ' ' :: _ => if mark == ' ' then openBox else checkedBox
  | _ => ""

/-- Takes the brackets off content that starts with text. -/
def dropBrackets : List Inline → List Inline
  | .text s :: rest => .text (String.ofList (s.toList.drop 3)) :: rest
  | content => content

def taskContent (defs : Definitions) (text : String) : List Inline :=
  let cs := text.toList
  if startsTask cs then .html (boxFor cs) :: dropBrackets (phrase defs text) else phrase defs text

mutual

/-- Reads the raw contents of a block. -/
def readContents (defs : Definitions) : Block String → Block (List Inline)
  | .heading level text => .heading level (phrase defs text)
  | .paragraph text => .paragraph (phrase defs text)
  | .list ordered items => .list ordered (readItemsContents defs items)
  | .code content => .code content
  | .rule => .rule
  | .quote children => .quote (readAllContents defs children)
  | .html content => .html content

def readAllContents (defs : Definitions) : List (Block String) → List (Block (List Inline))
  | [] => []
  | b :: bs => readContents defs b :: readAllContents defs bs

def readItemsContents (defs : Definitions) :
    List (List (Block String)) → List (List (Block (List Inline)))
  | [] => []
  | (.paragraph text :: rest) :: items =>
    (.paragraph (taskContent defs text) :: readAllContents defs rest) :: readItemsContents defs items
  | item :: items => readAllContents defs item :: readItemsContents defs items

end

/-- Every kind of line break becomes a line feed; the null character is replaced. -/
def normalChars : List Char → List Char
  | '\r' :: '\n' :: cs => '\n' :: normalChars cs
  | '\r' :: cs => '\n' :: normalChars cs
  | c :: cs => (if c.toNat == 0 then Char.ofNat 0xFFFD else c) :: normalChars cs
  | [] => []

def Document.read (text : String) : Document :=
  let (blocks, defs) := outline (normalChars text.toList).toArray
  readAllContents defs blocks

end Docwright.Markdown
