import Docwright.Template.Compile
import Docwright.Template.Reader
import Docwright.Writer.Session

namespace Docwright.Writer

open Edit Style

variable {σ : Type}

def checkText (text : String) : Except Failure Unit :=
  if text = "" then .error (invalid "text cannot be empty") else .ok ()

def appendText (w : Writer σ) (id : DocumentId) (text : String) : Action σ Update := do
  .settled (checkText text)
  w.append id "append_text" fun b => .ok (b.insertText text)

def prependText (w : Writer σ) (id : DocumentId) (text : String) : Action σ Update := do
  .settled (checkText text)
  w.submitEdits id "prepend_text" (editsAt 1 fun b => .ok (b.insertText text))

/-- Stands where a table of contents is to be put by hand. -/
def contentsMarker : String := "[Table of Contents]\n\n"

def prependContentsMarker (w : Writer σ) (id : DocumentId) : Action σ Update :=
  w.submitEdits id "insert_toc" (editsAt 1 fun b => .ok (b.insertText contentsMarker))

/-- A style that is nothing is one without attributes. -/
def readStyle (style : Json) : Except Failure Template.TextFormat :=
  (Template.readFormat (if style.truthy then style else .obj [])).toExcept.mapError fun findings =>
    .style (findings.map Template.Finding.text)

def appendStyled (w : Writer σ) (id : DocumentId) (text : String) (style : Json) :
    Action σ Update := do
  .settled (checkText text)
  let format ← .settled (readStyle style)
  w.append id "append_formatted" fun b => Template.writeText b text format

def checkRange (start stop : Int) : Except Failure Unit :=
  if start < 0 ∨ stop < start then
    .error (invalid s!"invalid range: start_index={start}, end_index={stop}")
  else .ok ()

def explain {α : Type} (checked : Except Refusal α) : Except Failure α :=
  checked.mapError fun r => invalid r.message

/-- A format that sets nothing is refused. -/
def readFormat (alignment : String) (format : ParagraphFormat) :
    Except Failure (List (String × Json)) := do
  let alignment ← explain (TextAlignment.read alignment)
  let fields := ParagraphFormat.fields { format with alignment }
  if fields.isEmpty then .error (invalid "no formatting options specified")
  return fields

/-- Formats the paragraphs that overlap a range. -/
def formatParagraphs (w : Writer σ) (id : DocumentId) (start stop : Int) (alignment : String)
    (format : ParagraphFormat) : Action σ Update := do
  .settled (checkRange start stop)
  let fields ← .settled (readFormat alignment format)
  w.submitEdits id "format_paragraph"
    (editsAt 1 fun b => b.formatParagraphs start stop fields (maskOf fields))

/-- A member of an object, or what stands for one that is absent. -/
def memberOr (absent : Json) (name : String) (v : Json) : Except Failure Json :=
  if v.isObj then .ok ((v.get? name).getD absent)
  else .error (.foreign "AttributeError" s!"'{Failure.kindOf v}' object has no attribute 'get'")

/-- An answer without replies counts as one reply that tells nothing. -/
def firstReply : Json → Except Failure Json
  | .arr replies => .ok (replies.headD (.obj []))
  | .str s => .ok (.str (String.ofList (s.toList.take 1)))
  | .obj _ => .error (.foreign "KeyError" "0")
  | v => .error (.foreign "TypeError" s!"'{Failure.kindOf v}' object is not subscriptable")

/-- How often a text has been replaced, as the service tells it. -/
def occurrences (answer : Json) : Except Failure Json := do
  let replies ← memberOr .null "replies" (if answer.truthy then answer else .obj [])
  let reply ← if replies.truthy then firstReply replies else .ok (.obj [])
  let replaced ← memberOr (.obj []) "replaceAllText" reply
  memberOr (0 : Int) "occurrencesChanged" replaced

/-- The answer of the service is read, though the number of occurrences is only logged. -/
def replaceAll (w : Writer σ) (id : DocumentId) (find replacement : String) (matchCase : Bool) :
    Action σ Update := do
  if find = "" then .fail (invalid (Refusal.emptyFind).message)
  let ops ← .settled ((editsAt 1 fun b => b.replaceAll find replacement matchCase).mapError .refused)
  let answer ← w.submit id ops "replace_text"
  let _ ← .settled (occurrences answer)
  return { documentId := id, operations := ops.length }

end Docwright.Writer
