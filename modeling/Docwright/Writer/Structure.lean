import Docwright.Csv
import Docwright.Template.Compile
import Docwright.Writer.Population
import Docwright.Writer.Text

namespace Docwright.Writer

open Edit Style

variable {σ : Type}

def readList (kind : String) (items : List String) (indent : Int) : Except Refusal ListKind := do
  let read ← ListKind.read kind
  checkItems items
  checkIndent indent
  return read

def appendList (w : Writer σ) (id : DocumentId) (kind : String) (items : List String)
    (indent : Int) : Action σ Update := do
  let read ← .settled (explain (readList kind items indent))
  w.append id "insert_list" fun b => Template.writeList b read items indent

def appendPageBreak (w : Writer σ) (id : DocumentId) : Action σ Update :=
  w.append id "insert_page_break" fun b => .ok b.insertPageBreak

def appendRule (w : Writer σ) (id : DocumentId) : Action σ Update :=
  w.append id "insert_horizontal_rule" fun b => .ok b.insertRule

/-- Creates a table at the end of the document, then fills it in. -/
def appendTable (w : Writer σ) (id : DocumentId) (rows columns : Int) (headers : List String)
    (data : List (List String)) : Action σ Update := do
  if rows < 1 ∨ columns < 1 then .fail (invalid (Refusal.tableSize).message)
  let created ← w.append id "insert_table" fun b => b.insertTable rows columns
  let tables ← w.populate id [{ rows, columns, headers, data }]
  return { created with tables }

structure Sheet where
  columns : Nat
  records : List (List String)

/-- Empty records do not count; the first of the others sets the number of columns. -/
def readSheet (text : String) : Except Failure Sheet := do
  let records ← (Csv.records text).mapError fun e => invalid s!"failed to parse CSV: {e.message}"
  match records.filter (!·.isEmpty) with
  | [] => .error (invalid "CSV data is empty")
  | first :: rest => return ⟨first.length, first :: rest⟩

def appendCsv (w : Writer σ) (id : DocumentId) (text : String) (hasHeaders : Bool) :
    Action σ Update := do
  let sheet ← .settled (readSheet text)
  let (headers, data) :=
    if hasHeaders then (sheet.records.headD [], sheet.records.tail) else ([], sheet.records)
  w.appendTable id sheet.records.length sheet.columns headers data

/-- What a text of requests holds. Nothing in it is measured, so that texts may be marked. -/
def readRequestText (s : String) : Except Failure Json :=
  match Json.ofText s with
  | .ok value | .error (.unpaired value) => .ok value
  | .error (.syntaxError m) => .error (invalid s!"failed to parse requests JSON: {m}")
  | .error (.longInteger digits) => .error (.refused (.longInteger digits))

/-- Requests, given as a list of objects or as the text of one. -/
def readRequests (given : Json) : Except Failure (List Json) := do
  let value ← match given with
    | .str s => readRequestText s
    | _ => .ok given
  match value with
  | .arr requests =>
    if !requests.all Json.isObj then .error notRequests
    else if requests.isEmpty then .error (invalid "requests cannot be empty")
    else .ok requests
  | _ => .error notRequests
where
  notRequests : Failure := invalid "requests must be a list of request objects"

/-- Submits requests as they are. -/
def sendGiven (w : Writer σ) (id : DocumentId) (given : Json) : Action σ Update := do
  let requests ← .settled (readRequests given)
  let _ ← w.send id requests "batch_update"
  return { documentId := id, operations := requests.length }

/-- A new document, as the service names it. -/
structure Creation where
  documentId : DocumentId
  title : Option String

def Creation.link (c : Creation) : String :=
  linkTo c.documentId

/-- A title that the service does not tell is the one that was asked for. -/
def create (w : Writer σ) (title content : String) : Action σ Creation := do
  let document ← w.perform "create_document" (.create title)
  let id := (document.get? "documentId").bind Json.str?
  if content ≠ "" then
    let _ ← w.appendText id content
  return { documentId := id, title := ((document.get? "title").getD (.str title)).str? }

end Docwright.Writer
