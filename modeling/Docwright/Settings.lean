import Docwright.Number.Reading
import Docwright.Retry.Policy

namespace Docwright

structure Settings where
  policy : Retry.Policy Number
  codeFont : String

namespace Settings

/-- Environment variables that are set. -/
abbrev Environment := String → Option String

def attemptsName : String := "GWS_DOCS_RETRY_MAX_ATTEMPTS"
def initialName : String := "GWS_DOCS_RETRY_INITIAL_BACKOFF"
def maxName : String := "GWS_DOCS_RETRY_MAX_BACKOFF"
def multiplierName : String := "GWS_DOCS_RETRY_MULTIPLIER"
def fontName : String := "GWS_DOCS_CODE_FONT"

def defaultFont : String := "Courier New"

/-- A blank value counts as not set. -/
def given (env : Environment) (name : String) : Option String :=
  (env name).filter fun s => !Text.allBlank s

def readInteger (env : Environment) (name : String) (default : Int) : Except Refusal Int :=
  match given env name with
  | none => .ok default
  | some s => match Number.readInt? s with
    | some n => .ok n
    | none => .error (.notInteger name s)

def readNumber (env : Environment) (name : String) (default : Float) : Except Refusal Number :=
  match given env name with
  | none => .ok (.float default)
  | some s => match Number.readFloat? s with
    | some x => .ok (.float x)
    | none => .error (.notNumber name s)

/-- Only an empty font counts as not set. -/
def fontOr (font : Option String) (default : String) : String :=
  match font with
  | some name => if name = "" then default else name
  | none => default

def load (env : Environment) : Except Refusal Settings := do
  let maxAttempts ← readInteger env attemptsName 3
  let initialBackoff ← readNumber env initialName 1.0
  let maxBackoff ← readNumber env maxName 30.0
  let multiplier ← readNumber env multiplierName 2.0
  let policy ← Retry.Policy.check { maxAttempts, initialBackoff, maxBackoff, multiplier }
  return { policy, codeFont := fontOr (env fontName) defaultFont }

/-- What can be done with settings. -/
inductive Request where
  /-- Reads the environment, and keeps nothing. -/
  | fresh
  /-- Takes what is kept, or else reads the environment. -/
  | current
  /-- Reads the environment anew. -/
  | reload
deriving DecidableEq

/-- The answer to a request, and the settings that are kept afterwards. -/
def serve (env : Environment) (kept : Option Settings) :
    Request → Except Refusal Settings × Option Settings
  | .fresh => (load env, kept)
  | .current => match kept with
    | some s => (.ok s, kept)
    | none => match load env with
      | .ok s => (.ok s, some s)
      | .error r => (.error r, none)
  | .reload => match load env with
    | .ok s => (.ok s, some s)
    | .error r => (.error r, kept)

end Settings

end Docwright
