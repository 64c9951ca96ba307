import Docwright.Json.Basic
import Docwright.Refusal

/-!
Checks that collect everything they find, each finding with the place it is about.
-/

namespace Docwright.Template

structure Finding where
  path : List String
  message : String
deriving DecidableEq

def Finding.text (f : Finding) : String :=
  if f.path.isEmpty then f.message else String.intercalate "." f.path ++ ": " ++ f.message

/-- A value, or what speaks against it. -/
inductive Checked (α : Type) where
  | ok (value : α)
  | refused (findings : List Finding)

namespace Checked

variable {α β : Type}

/-- The findings of both sides count, the left ones first. -/
instance : Applicative Checked where
  pure := .ok
  seq f x :=
    match f, x () with
    | .ok g, .ok a => .ok (g a)
    | .ok _, .refused after => .refused after
    | .refused before, .ok _ => .refused before
    | .refused before, .refused after => .refused (before ++ after)

def fail (message : String) : Checked α :=
  .refused [⟨[], message⟩]

/-- A check of a value that is made only when nothing has been found before. -/
def andThen (c : Checked α) (f : α → Checked β) : Checked β :=
  match c with
  | .ok a => f a
  | .refused findings => .refused findings

def ofRefusal : Except Refusal α → Checked α
  | .ok a => .ok a
  | .error r => fail ("Value error, " ++ r.message)

/-- Findings about the part `name` of a value. -/
def under (name : String) : Checked α → Checked α
  | .ok a => .ok a
  | .refused findings => .refused (findings.map fun f => { f with path := name :: f.path })

def toExcept : Checked α → Except (List Finding) α
  | .ok a => .ok a
  | .refused findings => .error findings

/-- Checks item after item, each under its position. -/
def itemsFrom (read : Json → Checked α) (position : Nat) : List Json → Checked (List α)
  | [] => .ok []
  | v :: vs => (· :: ·) <$> (read v).under (toString position) <*> itemsFrom read (position + 1) vs

end Checked

open Checked

/-- A list whose items pass. -/
def readList {α : Type} (read : Json → Checked α) : Json → Checked (List α)
  | .arr items => itemsFrom read 0 items
  | _ => fail "Input should be a valid list"

/-- A member that is absent has its default. -/
def optional {α : Type} (members : List (String × Json)) (name : String) (default : α)
    (read : Json → Checked α) : Checked α :=
  match Json.lookup name members with
  | some v => (read v).under name
  | none => .ok default

def required {α : Type} (members : List (String × Json)) (name : String) (read : Json → Checked α) :
    Checked α :=
  match Json.lookup name members with
  | some v => (read v).under name
  | none => (fail "Field required").under name

/-- Members of other names are refused one by one, in the order they were given. -/
def onlyNames (names : List String) : List (String × Json) → Checked Unit
  | [] => .ok ()
  | (n, _) :: rest =>
    if names.contains n then onlyNames names rest
    else (fun _ _ => ()) <$> (fail "Extra inputs are not permitted" : Checked Unit).under n <*>
      onlyNames names rest

/-- An object whose members pass, and that has no others. -/
def readObject {α : Type} (kind : String) (names : List String)
    (read : List (String × Json) → Checked α) : Json → Checked α
  | .obj members => (fun a _ => a) <$> read members <*> onlyNames names members
  | _ => fail s!"Input should be a valid dictionary or instance of {kind}"

end Docwright.Template
