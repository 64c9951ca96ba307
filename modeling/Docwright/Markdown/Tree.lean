namespace Docwright.Markdown

inductive Inline where
  | text (content : String)
  | softBreak
  | hardBreak
  | code (content : String)
  | html (content : String)
  | emphasis (children : List Inline)
  | strong (children : List Inline)
  | strike (children : List Inline)
  | link (href : String) (children : List Inline)
  | image (href : String) (children : List Inline)

/-- A block whose headings and paragraphs hold contents of type `α`. -/
inductive Block (α : Type) where
  | heading (level : Nat) (content : α)
  | paragraph (content : α)
  | list (ordered : Bool) (items : List (List (Block α)))
  | code (content : String)
  | rule
  | quote (children : List (Block α))
  | html (content : String)

namespace Block

variable {α β : Type}

mutual

def map (f : α → β) : Block α → Block β
  | .heading level content => .heading level (f content)
  | .paragraph content => .paragraph (f content)
  | .list ordered items => .list ordered (mapItems f items)
  | .code content => .code content
  | .rule => .rule
  | .quote children => .quote (mapAll f children)
  | .html content => .html content

def mapAll (f : α → β) : List (Block α) → List (Block β)
  | [] => []
  | b :: bs => b.map f :: mapAll f bs

def mapItems (f : α → β) : List (List (Block α)) → List (List (Block β))
  | [] => []
  | item :: items => mapAll f item :: mapItems f items

end

mutual

/-- The contents of headings and paragraphs, in the order of the document. -/
def contents : Block α → List α
  | .heading _ content | .paragraph content => [content]
  | .list _ items => itemsContents items
  | .quote children => allContents children
  | .code _ | .rule | .html _ => []

def allContents : List (Block α) → List α
  | [] => []
  | b :: bs => b.contents ++ allContents bs

def itemsContents : List (List (Block α)) → List α
  | [] => []
  | item :: items => allContents item ++ itemsContents items

end

end Block

end Docwright.Markdown
