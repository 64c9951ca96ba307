import Docwright.Log

namespace Docwright.Writer

/-- A document that has just been created may come without an identifier. -/
abbrev DocumentId := Option String

def DocumentId.shown (id : DocumentId) : String :=
  id.getD "None"

inductive Call where
  | get (id : DocumentId)
  | update (id : DocumentId) (requests : List Json)
  | create (title : String)

def Call.documentId : Call → DocumentId
  | .get id | .update id _ => id
  | .create _ => none

/-- One call with all its attempts. -/
structure Exchange where
  operation : String
  call : Call
  events : List (Retry.Event Number)
  result : Except Failure Json

namespace Exchange

/-- Error responses of the service are reported by what they mean; other failures as they are. -/
def answer (x : Exchange) : Except Failure Json :=
  match x.result with
  | .error (.http e) => .error (Failure.mapped x.call.documentId (.http e))
  | result => result

def attempts (x : Exchange) : Nat :=
  x.events.countP fun
    | .called => true
    | _ => false

def sleeps (x : Exchange) : List Number :=
  x.events.filterMap fun
    | .slept delay => some delay
    | _ => none

def closingLine (x : Exchange) : List LogLine :=
  match x.result with
  | .error (.http e) =>
    [⟨.failure,
      s!"[{x.operation}] Google API error for Doc={x.call.documentId.shown}: {e.message}"⟩]
  | _ => []

/-- What is logged about an exchange whose call is tried at most `maxAttempts` times. -/
def lines (maxAttempts : Int) (x : Exchange) : List LogLine :=
  x.events.filterMap (·.log? x.operation maxAttempts) ++ x.closingLine

end Exchange

/-- What a session leaves behind. -/
inductive Entry where
  | exchange (x : Exchange)
  | warning (text : String)

namespace Entry

def calls : Entry → List Call
  | .exchange x => List.replicate x.attempts x.call
  | .warning _ => []

def sleeps : Entry → List Number
  | .exchange x => x.sleeps
  | .warning _ => []

def lines (maxAttempts : Int) : Entry → List LogLine
  | .exchange x => x.lines maxAttempts
  | .warning text => [⟨.warning, text⟩]

end Entry

end Docwright.Writer
