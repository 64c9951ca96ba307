import Docwright.Refusal

namespace Docwright.Style

inductive NamedStyle where
  | heading1 | heading2 | heading3 | heading4 | title | subtitle | normal
deriving DecidableEq

inductive TextAlignment where
  | left | center | right | justify
deriving DecidableEq

inductive ListKind where
  | bullet | numbered | lettered | roman | checklist
deriving DecidableEq

namespace NamedStyle

def all : List NamedStyle :=
  [.heading1, .heading2, .heading3, .heading4, .title, .subtitle, .normal]

def name : NamedStyle → String
  | .heading1 => "heading1"
  | .heading2 => "heading2"
  | .heading3 => "heading3"
  | .heading4 => "heading4"
  | .title => "title"
  | .subtitle => "subtitle"
  | .normal => "normal"

/-- The paragraph style of the document. -/
def paragraphStyle : NamedStyle → String
  | .heading1 => "HEADING_1"
  | .heading2 => "HEADING_2"
  | .heading3 => "HEADING_3"
  | .heading4 => "HEADING_4"
  | .title => "TITLE"
  | .subtitle => "SUBTITLE"
  | .normal => "NORMAL_TEXT"

def ofName? (s : String) : Option NamedStyle :=
  all.find? (·.name = s)

/-- The empty name asks for no style. -/
def read (s : String) : Except Refusal (Option NamedStyle) :=
  if s = "" then .ok none
  else match ofName? s with
    | some style => .ok (some style)
    | none => .error (.namedStyle s)

end NamedStyle

namespace TextAlignment

def all : List TextAlignment :=
  [.left, .center, .right, .justify]

def name : TextAlignment → String
  | .left => "left"
  | .center => "center"
  | .right => "right"
  | .justify => "justify"

def direction : TextAlignment → String
  | .left => "START"
  | .center => "CENTER"
  | .right => "END"
  | .justify => "JUSTIFIED"

def ofName? (s : String) : Option TextAlignment :=
  all.find? (·.name = s)

/-- The empty name asks for no alignment. -/
def read (s : String) : Except Refusal (Option TextAlignment) :=
  if s = "" then .ok none
  else match ofName? s with
    | some a => .ok (some a)
    | none => .error (.alignment s)

end TextAlignment

namespace ListKind

def all : List ListKind :=
  [.bullet, .numbered, .lettered, .roman, .checklist]

def name : ListKind → String
  | .bullet => "bullet"
  | .numbered => "numbered"
  | .lettered => "lettered"
  | .roman => "roman"
  | .checklist => "checklist"

/-- The glyphs of the list paragraphs. -/
def preset : ListKind → String
  | .bullet => "BULLET_DISC_CIRCLE_SQUARE"
  | .numbered => "NUMBERED_DECIMAL_ALPHA_ROMAN"
  | .lettered => "NUMBERED_UPPERALPHA_ALPHA_ROMAN"
  | .roman => "NUMBERED_UPPERROMAN_UPPERALPHA_DECIMAL"
  | .checklist => "BULLET_CHECKBOX"

def ofName? (s : String) : Option ListKind :=
  all.find? (·.name = s)

def read (s : String) : Except Refusal ListKind :=
  if s = "" then .error .noListKind
  else match ofName? s with
    | some k => .ok k
    | none => .error (.listKind s)

end ListKind

end Docwright.Style
