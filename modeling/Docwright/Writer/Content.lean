import Docwright.Markdown.Compile
import Docwright.Template.Draft
import Docwright.Writer.Population

namespace Docwright.Writer

open Edit

variable {σ : Type}

/-- Appends Markdown. -/
def appendMarkdown (w : Writer σ) (id : DocumentId) (text : String) : Action σ Update := do
  let stop ← w.endOf id
  w.submitEdits id "insert_markdown" (Markdown.compile w.codeFont text stop)

/-- All of a document that ends at `stop`, but for its final line break. -/
def clearing (stop : Int) : Except Refusal (List Operation) :=
  if 1 < stop then (Span.of 1 stop).map fun span => [.delete span] else .ok []

/-- Puts Markdown in the place of all that the document holds. -/
def replaceWithMarkdown (w : Writer σ) (id : DocumentId) (text : String) : Action σ Update := do
  let stop ← w.endOf id
  let _ ← w.submitEdits id "clear_body" (clearing stop)
  w.appendMarkdown id text

/-- Appends a template. It is read before anything else is done. -/
def appendTemplate (w : Writer σ) (id : DocumentId) (given : Json) : Action σ Update := do
  let draft ← .settled (Template.Draft.ofJson given)
  let stop ← w.endOf id
  Action.warn (draft.warnings stop)
  let compiled ← .settled (draft.compile stop)
  let created ← w.submitEdits id "apply_template" (.ok compiled.operations)
  let tables ← w.populate id compiled.jobs draft.marked
  return { created with tables }

end Docwright.Writer
