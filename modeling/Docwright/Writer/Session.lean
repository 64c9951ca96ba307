import Docwright.Edit.Builder
import Docwright.Snapshot.Basic
import Docwright.Writer.Call

/-!
Sessions with the remote service. Every call goes through `Writer.perform`, which tries it as the
policy says and keeps a record of it.
-/

namespace Docwright

/-- How documents are written. The service answers a call by its state `σ`. -/
structure Writer (σ : Type) where
  service : Writer.Call → σ → Except Failure Json × σ
  policy : Retry.Policy Number
  draw : Nat → Number
  codeFont : String

namespace Writer

open Edit

/-- The history holds the oldest entry first. -/
structure Session (σ : Type) where
  service : σ
  draws : Nat := 0
  history : List Entry := []

/-- Something to do in a session. What was done before a failure stays done. -/
def Action (σ α : Type) : Type :=
  Session σ → Except Failure α × Session σ

variable {σ α β : Type}

namespace Action

def done (a : α) : Action σ α :=
  fun s => (.ok a, s)

def andThen (x : Action σ α) (f : α → Action σ β) : Action σ β :=
  fun s =>
    match x s with
    | (.ok a, t) => f a t
    | (.error e, t) => (.error e, t)

instance : Monad (Action σ) where
  pure := done
  bind := andThen

/-- A value that is settled without the service. -/
def settled (e : Except Failure α) : Action σ α :=
  fun s => (e, s)

def fail (f : Failure) : Action σ α :=
  settled (.error f)

def warn (texts : List String) : Action σ Unit :=
  fun s => (.ok (), { s with history := s.history ++ texts.map .warning })

end Action

/-- What has been written, and where. -/
structure Update where
  documentId : DocumentId
  operations : Nat
  tables : Nat := 0

def linkTo (id : DocumentId) : String :=
  s!"https://docs.google.com/document/d/{id.shown}/edit"

def Update.link (u : Update) : String :=
  linkTo u.documentId

def invalid (message : String) : Failure :=
  .validation message

/-- A call, tried as the policy says. -/
def perform (w : Writer σ) (operation : String) (call : Call) : Action σ Json :=
  fun s =>
    let run := Retry.run w.policy w.draw (w.service call) s.draws s.service
    let x : Exchange := ⟨operation, call, run.events, run.result⟩
    (x.answer, ⟨run.state, run.draws, s.history ++ [.exchange x]⟩)

def fetch (w : Writer σ) (id : DocumentId) : Action σ Json :=
  w.perform "get_document" (.get id)

def send (w : Writer σ) (id : DocumentId) (requests : List Json) (operation : String) :
    Action σ Json :=
  w.perform operation (.update id requests)

/-- One batch. An empty one is not submitted, and has no answer. -/
def submit (w : Writer σ) (id : DocumentId) (ops : List Operation) (operation : String) :
    Action σ Json :=
  if ops.isEmpty then .done .null else w.send id (requests ops) operation

def endOf (w : Writer σ) (id : DocumentId) : Action σ Int := do
  let document ← w.fetch id
  return (Snapshot.ofJson document).endIndex

/-- Edits that were refused are not submitted. -/
def submitEdits (w : Writer σ) (id : DocumentId) (operation : String)
    (edits : Except Refusal (List Operation)) : Action σ Update := do
  let ops ← .settled (edits.mapError .refused)
  let _ ← w.submit id ops operation
  return { documentId := id, operations := ops.length }

/-- Adds to a new builder at a position. -/
def editsAt (index : Int) (build : Builder → Except Refusal Builder) :
    Except Refusal (List Operation) := do
  let b ← Builder.start index
  let built ← build b
  return built.operations

/-- Edits at the end of the document as it is now. -/
def append (w : Writer σ) (id : DocumentId) (operation : String)
    (build : Builder → Except Refusal Builder) : Action σ Update := do
  let stop ← w.endOf id
  w.submitEdits id operation (editsAt stop build)

end Writer

end Docwright
