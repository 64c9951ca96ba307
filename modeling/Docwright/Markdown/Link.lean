import Docwright.Markdown.Url
import Docwright.Text.CaseFold

namespace Docwright.Markdown

/-- A part of a link, with the number of characters it takes. -/
structure Part where
  content : List Char
  used : Nat

/-- The raw characters up to the closing angle bracket. -/
def angledBody? : List Char → Option (List Char)
  | '\n' :: _ => none
  | '<' :: _ => none
  | '>' :: _ => some []
  | '\\' :: c :: cs => (angledBody? cs).map fun body => '\\' :: c :: body
  | c :: cs => (angledBody? cs).map (c :: ·)
  | [] => none

/-- The raw characters up to the first blank, control or unmatched closing parenthesis; at most
32 parentheses may be open, and none at the end. -/
def bareBody? (depth : Nat) : List Char → Option (List Char)
  | [] => if depth == 0 then some [] else none
  | '\\' :: c :: cs =>
    if c == ' ' then (if depth == 0 then some [] else none)
    else (bareBody? depth cs).map fun body => '\\' :: c :: body
  | c :: cs =>
    if c.toNat ≤ 32 || c.toNat == 127 then (if depth == 0 then some [] else none)
    else if c == '(' then
      if depth == 32 then none else (bareBody? (depth + 1) cs).map (c :: ·)
    else if c == ')' then
      if depth == 0 then some [] else (bareBody? (depth - 1) cs).map (c :: ·)
    else (bareBody? depth cs).map (c :: ·)

/-- A destination in angle brackets may be empty, any other has at least one character. -/
def destination? (cs : List Char) : Option Part :=
  match cs with
  | '<' :: rest => (angledBody? rest).map fun body => ⟨unescape body, body.length + 2⟩
  | _ => match bareBody? 0 cs with
    | some [] => none
    | some body => some ⟨unescape body, body.length⟩
    | none => none

/-- How far a title goes. -/
inductive TitleScan where
  | none
  | closed (part : Part)
  /-- The text ends before the title does. -/
  | unfinished (closing : Char) (content : List Char)

/-- The raw characters up to the closing mark, and whether it is there. -/
def titleBody? (closing : Char) : List Char → Option (List Char × Bool)
  | [] => some ([], false)
  | '\\' :: c :: cs =>
    (titleBody? closing cs).map fun (body, closed) => ('\\' :: c :: body, closed)
  | c :: cs =>
    if c == closing then some ([], true)
    else if c == '(' && closing == ')' then none
    else (titleBody? closing cs).map fun (body, closed) => (c :: body, closed)

def titleRest (closing : Char) (before cs : List Char) (opening : Nat) : TitleScan :=
  match titleBody? closing cs with
  | none => .none
  | some (body, true) => .closed ⟨before ++ unescape body, body.length + 1 + opening⟩
  | some (body, false) => .unfinished closing (before ++ unescape body)

def scanTitle (cs : List Char) : TitleScan :=
  match cs with
  | '"' :: rest => titleRest '"' [] rest 1
  | '\'' :: rest => titleRest '\'' [] rest 1
  | '(' :: rest => titleRest ')' [] rest 1
  | _ => .none

/-- A title that ends on its first line has to stand apart from the destination. -/
def TitleScan.afterGap (t : TitleScan) (apart : Bool) : TitleScan :=
  match t with
  | .closed part => if apart then .closed part else .none
  | other => other

/-- Goes on with an unfinished title on the next line. -/
def TitleScan.continue (t : TitleScan) (cs : List Char) : TitleScan :=
  match t with
  | .unfinished closing content => titleRest closing content cs 0
  | other => other

/-- Labels agree when they differ only in case and in the blanks between words. -/
def normalLabel (cs : List Char) : String :=
  Text.caseFold (String.ofList (Text.collapse isMargin (Text.trim isMargin cs)))

/-- The destinations that labels are defined to have; the first definition of a label holds. -/
abbrev Definitions := List (String × String)

def Definitions.find? (d : Definitions) (label : List Char) : Option String :=
  d.lookup (normalLabel label)

def Definitions.define (d : Definitions) (label : String) (href : String) : Definitions :=
  if (d.lookup label).isSome then d else d ++ [(label, href)]

/-- The stored form of a destination that may be linked to. -/
def href? (destination : List Char) : Option String :=
  let address := Url.normalize destination
  if Url.isAllowed address then some (String.ofList address) else none

end Docwright.Markdown
