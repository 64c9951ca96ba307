import Docwright.Edit.Operation
import Docwright.Text.Units

/-!
A batch of edits in the making. The cursor is where the next insertion lands; texts and page
breaks move it behind themselves. A table leaves it in place, because the size of a table is known
only to the document.
-/

namespace Docwright.Edit

open Style

structure Builder where
  cursor : Int
  operations : List Operation

namespace Builder

/-- Documents start at position one. -/
def start (index : Int) : Except Refusal Builder :=
  if index < 1 then .error (.startIndex index) else .ok ⟨index, []⟩

def push (b : Builder) (op : Operation) : Builder :=
  { b with operations := b.operations ++ [op] }

/-- The empty text is nothing to insert. -/
def insertText (b : Builder) (text : String) : Builder :=
  if text = "" then b
  else ⟨b.cursor + Text.width text, b.operations ++ [.insertText b.cursor text]⟩

def nameParagraphs (b : Builder) (start stop : Int) (style : String) : Except Refusal Builder :=
  (Span.of start stop).map fun span => b.push (.nameParagraphs span style)

/-- Without a mask, or with an empty one, exactly the attributes of the style are set. -/
def styleText (b : Builder) (start stop : Int) (style : TextStyle) (fields : Option String := none) :
    Except Refusal Builder :=
  (Span.of start stop).map fun span =>
    b.push (.styleText span style (match fields with
      | some mask => if mask = "" then style.mask else mask
      | none => style.mask))

def createList (b : Builder) (start stop : Int) (preset : String) : Except Refusal Builder :=
  (Span.of start stop).map fun span => b.push (.createList span preset)

def insertTable (b : Builder) (rows columns : Int) : Except Refusal Builder :=
  if rows < 1 ∨ columns < 1 then .error .tableSize
  else .ok (b.push (.insertTable b.cursor rows columns))

/-- The break and the line break after it. -/
def pageBreakWidth : Int := 2

def insertPageBreak (b : Builder) : Builder :=
  ⟨b.cursor + pageBreakWidth, b.operations ++ [.insertPageBreak b.cursor]⟩

def ruleText : String :=
  "\n" ++ String.ofList (List.replicate 50 '_') ++ "\n"

def insertRule (b : Builder) : Builder :=
  b.insertText ruleText

def deleteRange (b : Builder) (start stop : Int) : Except Refusal Builder :=
  (Span.of start stop).map fun span => b.push (.delete span)

def formatParagraphs (b : Builder) (start stop : Int) (style : List (String × Json))
    (fields : String) : Except Refusal Builder :=
  (Span.of start stop).map fun span => b.push (.formatParagraphs span style fields)

def replaceAll (b : Builder) (find replacement : String) (matchCase : Bool) :
    Except Refusal Builder :=
  if find = "" then .error .emptyFind
  else .ok (b.push (.replaceAll find replacement matchCase))

end Builder

/-- One thing to do with a builder. -/
inductive Step where
  | insertText (text : String)
  | nameParagraphs (start stop : Int) (style : String)
  | styleText (start stop : Int) (style : TextStyle) (fields : Option String)
  | createList (start stop : Int) (preset : String)
  | insertTable (rows columns : Int)
  | insertPageBreak
  | insertRule
  | deleteRange (start stop : Int)
  | formatParagraphs (start stop : Int) (style : List (String × Json)) (fields : String)
  | replaceAll (find replacement : String) (matchCase : Bool)

def Builder.step (b : Builder) : Step → Except Refusal Builder
  | .insertText text => .ok (b.insertText text)
  | .nameParagraphs start stop style => b.nameParagraphs start stop style
  | .styleText start stop style fields => b.styleText start stop style fields
  | .createList start stop preset => b.createList start stop preset
  | .insertTable rows columns => b.insertTable rows columns
  | .insertPageBreak => .ok b.insertPageBreak
  | .insertRule => .ok b.insertRule
  | .deleteRange start stop => b.deleteRange start stop
  | .formatParagraphs start stop style fields => b.formatParagraphs start stop style fields
  | .replaceAll find replacement matchCase => b.replaceAll find replacement matchCase

/-- A refused step leaves the builder as it was. -/
def Builder.attempt (b : Builder) (s : Step) : Builder :=
  match b.step s with
  | .ok next => next
  | .error _ => b

end Docwright.Edit
