import Docwright.Failure.Response
import Docwright.Number.Reading
import Docwright.Refusal
import Docwright.Text.Surrogate

namespace Docwright

namespace Failure

inductive ApiKind where
  | general
  | notFound
  | permissionDenied
  | rateLimit
  | tablePopulation
deriving DecidableEq

end Failure

inductive Failure where
  /-- A failure of the workspace that is of no other kind. -/
  | workspace (message : String)
  | validation (message : String)
  /-- Arguments that a list of findings speaks against. -/
  | style (findings : List String)
  | template (message : String) (errors : List String)
  | api (kind : Failure.ApiKind) (message : String) (status : Json) (documentId : Option String)
  | http (error : Failure.ErrorResponse)
  | refused (reason : Refusal)
  | missingKey (key : String)
  /-- A status that cannot be compared with an integer was to be: it is no number, or infinite where
  an integer is asked for. -/
  | unordered (status : Json)
  /-- A failure of another party. -/
  | foreign (kind message : String)

namespace Failure

/-- The kind of a value, as a message about a comparison names it. -/
def kindOf : Json → String
  | .null => "NoneType"
  | .bool _ => "bool"
  | .num (.int _) => "int"
  | .num (.float _) => "float"
  | .str _ => "str"
  | .arr _ => "list"
  | .obj _ => "dict"

def message : Failure → String
  | .workspace m | .validation m | .template m _ | .api _ m _ _ | .foreign _ m => m
  | .style _ => "Invalid style"
  | .http e => e.message
  | .refused r => r.message
  | .missingKey key => Text.quoted key
  | .unordered (.num _) => "cannot convert float infinity to integer"
  | .unordered status => s!"'>=' not supported between instances of '{kindOf status}' and 'int'"

/-- Rate limits and failures of the server may pass. -/
def transientCode (code : Number) : Bool :=
  code.eq 429 || Number.le 500 code

/-- Whether a status promises success on another try. A status that is not a number cannot be
compared; no status promises nothing. -/
def transientStatus? : Json → Option Bool
  | .null => some false
  | .bool _ => some false
  | .num n => some (transientCode n)
  | _ => none

/-- The status as an integer, when it can be read as one. -/
def statusCode? : Json → Option Int
  | .num (.int n) => some n
  | .num (.float x) => Number.truncate? x
  | .bool b => some (if b then 1 else 0)
  | .str s => Number.readInt? s
  | _ => none

/-- An infinite status, which no integer stands for. -/
def isBoundless : Json → Bool
  | .num (.float x) => match Decimal.Parts.ofFloat x with
    | .infinite _ => true
    | _ => false
  | _ => false

/-- Whether another try may succeed, when that can be told. -/
def retryable? : Failure → Option Bool
  | .http e => match statusCode? e.status with
    | some n => some (transientCode (.int n))
    | none => if isBoundless e.status then none else some false
  | .api _ _ status _ => transientStatus? status
  | _ => some false

/-- The status that a failure has. -/
def status : Failure → Json
  | .api _ _ status _ => status
  | .http e => e.status
  | _ => .null

def ofStatus (message : String) (status : Json) (documentId : Option String) : Failure :=
  let is := fun (n : Int) => match status with
    | .num code => code.eq (.int n)
    | _ => false
  if is 404 then
    .api .notFound s!"Document not found: {documentName}" (.num 404) none
  else if is 403 then
    .api .permissionDenied
      "Permission denied. You may not have write access to this document." (.num 403) none
  else if is 401 then
    .api .general "Authentication expired. Please re-authenticate." (.num 401) none
  else if is 429 then
    .api .rateLimit "Rate limit exceeded. Please wait and try again." (.num 429) none
  else .api .general s!"Google API error: {message}" status none
where
  documentName : String := match documentId with
    | some id => if id = "" then "unknown" else id
    | none => "unknown"

/-- What a failure of a remote call is reported as. One that is reported already stays as it is. -/
def mapped (documentId : Option String) : Failure → Failure
  | .api kind m status id => .api kind m status id
  | .http e => ofStatus e.message e.status documentId
  | f => .api .general s!"Google API error: {f.message}" .null none

def isApi : Failure → Bool
  | .api .. => true
  | _ => false

/-- A failure, said of the operation that it ended. -/
def describe (operation : String) (f : Failure) : String :=
  s!"{operation} failed: {f.message}"

/-- A surrogate by itself has no code units to be written with. -/
def unencodable (surrogate position : Nat) : Failure :=
  let digits := String.ofList (Nat.toDigits 16 surrogate)
  .foreign "UnicodeEncodeError" (s!"'utf-16-le' codec can't encode character '\\u{digits}' in " ++
    s!"position {position}: surrogates not allowed")

end Failure

/-- Texts that are inserted are measured in code units, for which they have to be encoded. -/
def checkEncodable (marked : Bool) (texts : List String) : Except Failure Unit :=
  match marked, texts.findSome? Text.unpaired? with
  | true, some (surrogate, position) => .error (.unencodable surrogate position)
  | _, _ => .ok ()

end Docwright
