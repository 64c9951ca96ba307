import Docwright.Snapshot.Basic
import Docwright.Text.Blank

/-!
The sections of a document: its heading paragraphs. The body of a section runs from its heading to
the next heading, or to the end of the document.
-/

namespace Docwright.Snapshot

structure Section where
  heading : String
  level : Nat
  start : Int
  stop : Int

def headingLevel? (style : String) : Option Nat :=
  (List.range 6).findSome? fun n => if style = s!"HEADING_{n + 1}" then some (n + 1) else none

/-- A heading without positions counts as standing at zero. -/
def section? (e : Element) : Option Section := do
  let paragraph ← e.paragraph
  let level ← headingLevel? paragraph.style
  return {
    heading := Text.strip (String.join paragraph.texts), level,
    start := e.start.getD 0, stop := e.stop.getD 0 }

def sections (s : Snapshot) : List Section :=
  s.filterMap section?

end Docwright.Snapshot
