import Docwright.Template.Compile
import Docwright.Template.Reader

/-!
Templates that may hold unpaired surrogates. They are checked like all others, but a text that is to
be inserted cannot be measured if there is such a surrogate in it.
-/

namespace Docwright.Template

open Edit

/-- A template that has been accepted. If it is marked, its texts are marked texts. -/
structure Draft where
  template : Template
  marked : Bool

/-- What a value is accepted as. Findings quote a marked value as it is marked. -/
def Draft.ofJson (v : Json) : Except Failure Draft :=
  match Template.ofJson v with
  | .ok t => .ok ⟨t, false⟩
  | .error (.unpaired value) =>
    match (readTemplate value).toExcept with
    | .ok t => .ok ⟨t, true⟩
    | .error findings => .error (Invalid.rules findings).toFailure
  | .error why => .error why.toFailure

def Compiled.texts (c : Compiled) : List String :=
  c.operations.filterMap Operation.inserted?

/-- Compiling ends at the first text that cannot be measured. -/
def Draft.compile (d : Draft) (start : Int) : Except Failure Compiled := do
  let c ← (d.template.compile start).mapError .refused
  checkEncodable d.marked c.texts
  return c

/-- How often other content comes right after a table. `after` tells whether there is one in front. -/
def overtakings : Bool → List Operation → Nat
  | _, [] => 0
  | _, .insertTable .. :: rest => overtakings true rest
  | after, _ :: rest => overtakings false rest + after.toNat

/-- The operations up to the first text that cannot be measured, with the one that inserts it. -/
def untilUnpaired : List Operation → List Operation
  | [] => []
  | op :: rest =>
    if (op.inserted?.bind Text.unpaired?).isSome then [op] else op :: untilUnpaired rest

/-- The warnings that are given before compiling is over. -/
def Draft.warnings (d : Draft) (start : Int) : List String :=
  match d.template.compile start with
  | .ok c =>
    if d.marked then List.replicate (overtakings false (untilUnpaired c.operations)) reorderWarning
    else c.warnings
  | .error _ => []

end Docwright.Template
