import Docwright.Snapshot.Section
import Docwright.Writer.Session

namespace Docwright.Writer

open Edit Snapshot

variable {σ : Type}

/-- The first section with a heading, and where the section after it starts. -/
def findSection (heading : String) : List Section → Option (Section × Option Int)
  | [] => none
  | s :: rest =>
    if s.heading = heading then some (s, rest.head?.map (·.start)) else findSection heading rest

/-- Deletes the body of a section of a document that ends at `stop`, and inserts a paragraph in its
place. Text behind a heading that ends the document would take on the style of the heading. -/
def replaceBody (stop : Int) (s : Section) (next : Option Int) (content : String) :
    Except Refusal (List Operation) :=
  editsAt (min s.stop stop) fun b => do
    let bodyStop := next.getD stop
    let cleared ← if s.stop < bodyStop then b.deleteRange s.stop bodyStop else .ok b
    let inserted := cleared.insertText ("\n" ++ content ++ "\n")
    if stop < s.stop then inserted.nameParagraphs (cleared.cursor + 1) inserted.cursor "NORMAL_TEXT"
    else .ok inserted

def requireHeading (heading : String) : Except Failure Unit :=
  if Text.allBlank heading then .error (invalid "heading cannot be empty") else .ok ()

def sectionMissing (heading : String) : Failure :=
  .api .notFound s!"Section not found: {heading}" .null none

/-- The edits that give a section of a snapshot a new body. -/
def sectionEdits (s : Snapshot) (heading content : String) : Except Failure (List Operation) :=
  match findSection (Text.strip heading) (sections s) with
  | none => .error (sectionMissing (Text.strip heading))
  | some (found, next) => (replaceBody s.endIndex found next content).mapError .refused

def replaceSection (w : Writer σ) (id : DocumentId) (heading content : String) :
    Action σ Update := do
  .settled (requireHeading heading)
  let document ← w.fetch id
  let ops ← .settled (sectionEdits (Snapshot.ofJson document) heading content)
  w.submitEdits id "update_section" (.ok ops)

end Docwright.Writer
