/-!
Comma-separated values. A field in quotes may hold commas and line breaks, and a quote in it is
written twice.
-/

namespace Docwright.Csv

inductive Fault where
  | fieldTooLong
  | strayLineBreak

def fieldLimit : Nat := 131072

def Fault.message : Fault → String
  | .fieldTooLong => s!"field larger than field limit ({fieldLimit})"
  | .strayLineBreak =>
    "new-line character seen in unquoted field - do you need to open the file in " ++
      "universal-newline mode?"

inductive State where
  | recordStart
  | fieldStart
  | bare
  | quoted
  /-- Behind a quote in a field in quotes. -/
  | quoteSeen
  /-- Behind a line break; only line breaks may follow on the line. -/
  | lineEnd
deriving DecidableEq

/-- A record in the making: its fields and the current one, both in reverse. The current field has
room for that many more characters. -/
structure Progress where
  state : State := .recordStart
  field : List Char := []
  room : Nat := fieldLimit
  fields : List String := []

namespace Progress

def add (p : Progress) (c : Char) (state : State) : Except Fault Progress :=
  match p.room with
  | 0 => .error .fieldTooLong
  | room + 1 => .ok { p with field := c :: p.field, room, state }

def save (p : Progress) (state : State) : Progress :=
  { state, fields := String.ofList p.field.reverse :: p.fields }

def isBreak (c : Char) : Bool :=
  c == '\n' || c == '\r'

def atFieldStart (p : Progress) (c : Char) : Except Fault Progress :=
  if isBreak c then .ok (p.save .lineEnd)
  else if c == '"' then .ok { p with state := .quoted }
  else if c == ',' then .ok (p.save .fieldStart)
  else p.add c .bare

def step (p : Progress) (c : Char) : Except Fault Progress :=
  match p.state with
  | .recordStart => if isBreak c then .ok { p with state := .lineEnd } else p.atFieldStart c
  | .fieldStart => p.atFieldStart c
  | .bare =>
    if isBreak c then .ok (p.save .lineEnd)
    else if c == ',' then .ok (p.save .fieldStart)
    else p.add c .bare
  | .quoted => if c == '"' then .ok { p with state := .quoteSeen } else p.add c .quoted
  | .quoteSeen =>
    if c == '"' then p.add c .quoted
    else if c == ',' then .ok (p.save .fieldStart)
    else if isBreak c then .ok (p.save .lineEnd)
    else p.add c .bare
  | .lineEnd => if isBreak c then .ok p else .error .strayLineBreak

/-- The record, when the end of the line is its end. -/
def endLine (p : Progress) : Progress ⊕ List String :=
  match p.state with
  | .recordStart | .lineEnd => .inr p.fields.reverse
  | .fieldStart | .bare | .quoteSeen => .inr (p.save .recordStart).fields.reverse
  | .quoted => .inl p

end Progress

/-- Lines end behind a line feed. `atStart` tells whether a line has just ended. -/
def readFrom (p : Progress) (atStart : Bool) : List Char → Except Fault (List (List String))
  | [] =>
    if atStart then
      match p.state with
      | .quoted => .ok [(p.save .recordStart).fields.reverse]
      | _ => .ok []
    else
      match p.endLine with
      | .inr record => .ok [record]
      | .inl unfinished => .ok [(unfinished.save .recordStart).fields.reverse]
  | c :: cs => do
    let next ← p.step c
    if c == '\n' then
      match next.endLine with
      | .inr record => return record :: (← readFrom {} true cs)
      | .inl unfinished => readFrom unfinished true cs
    else readFrom next false cs

/-- The records of a text; an empty line is an empty record. -/
def records (text : String) : Except Fault (List (List String)) :=
  readFrom {} true text.toList

end Docwright.Csv
