import Docwright.Decimal.Fixed
import Docwright.Retry.Run

namespace Docwright

inductive LogLevel where
  | warning
  | failure
deriving DecidableEq

structure LogLine where
  level : LogLevel
  text : String

def LogLevel.name : LogLevel → String
  | .warning => "WARNING"
  | .failure => "ERROR"

def LogLine.render (l : LogLine) : String :=
  s!"{l.level.name}: {l.text}"

/-- The line for an event of an operation that is tried at most `maxAttempts` times. -/
def Retry.Event.log? (operation : String) (maxAttempts : Int) :
    Retry.Event Number → Option LogLine
  | .called | .slept _ => none
  | .retrying attempt e delay =>
    let head := s!"Transient error in {operation} on attempt {attempt}/{maxAttempts}: {e.message}. "
    some ⟨.warning, head ++ s!"Retrying in {Decimal.fixed 2 delay.toFloat} seconds..."⟩
  | .gaveUp attempt e =>
    some ⟨.failure, s!"Transient error in {operation} on final attempt {attempt}: {e.message}"⟩

def Retry.Run.lines {α σ : Type} (r : Retry.Run Number α σ) (operation : String)
    (maxAttempts : Int) : List LogLine :=
  r.events.filterMap (·.log? operation maxAttempts)

end Docwright
