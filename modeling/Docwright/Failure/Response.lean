import Docwright.Json.Reader
import Docwright.Json.Shown
import Docwright.Text.Blank

namespace Docwright.Failure

/-- The status is kept as the service gave it. -/
structure ErrorResponse where
  status : Json
  reason : String
  details : Json
  uri : Option String

/-- What the body of a response says about the error: a reason and details, each if present. -/
structure Explanation where
  reason : Option Json := none
  details : Json := .null

def detailNames : List String :=
  ["detail", "details", "errors", "message"]

/-- The reason that an entry gives as the message of its error, with that error. -/
def explained (entry : Json) : Option (Json × Json) := do
  let inner ← entry.get? "error"
  return (← inner.get? "message", inner)

/-- A value of another shape is itself the details. -/
def Explanation.ofData : Json → Explanation
  | .obj members =>
    match explained (.obj members) with
    | some (reason, inner) =>
      { reason := some reason, details := (detailNames.findSome? inner.get?).getD .null }
    | none => {}
  | .arr (first :: _) =>
    match explained first with
    | some (reason, inner) =>
      { reason := some reason, details := (inner.get? "details").getD .null }
    | none => {}
  | data => { details := data }

/-- A body that is no JSON is itself the details. One that holds an integer of too many digits says
nothing. -/
def Explanation.ofBody (body : String) : Explanation :=
  match Json.ofText body with
  | .ok data | .error (.unpaired data) => .ofData data
  | .error (.syntaxError _) => { details := .str body }
  | .error (.longInteger _) => {}

def ErrorResponse.ofParts (status : Json) (reason : Option String) (body : String)
    (uri : Option String) : ErrorResponse :=
  let said := Explanation.ofBody body
  let text := match said.reason with
    | some r => r.str?.getD ""
    | none => reason.getD ""
  { status, reason := Text.strip text, details := said.details, uri }

def ErrorResponse.message (e : ErrorResponse) : String :=
  let status := e.status.plain
  if e.details.truthy then
    s!"<HttpError {status} when requesting {e.uri.getD noUri} returned \"{e.reason}\". " ++
      s!"Details: \"{e.details.plain}\">"
  else match e.uri with
    | some uri =>
      if uri = "" then s!"<HttpError {status} \"{e.reason}\">"
      else s!"<HttpError {status} when requesting {uri} returned \"{e.reason}\">"
    | none => s!"<HttpError {status} \"{e.reason}\">"
where
  noUri : String := "None"

end Docwright.Failure
