import Docwright.Edit.Builder
import Docwright.Markdown.Tree

/-!
Inline content as plain text with style spans. Text and spans come from one walk, so a span always
covers what was written for its node.
-/

namespace Docwright.Markdown

open Style

/-- A span of the text in code units, with its style. -/
structure StyledSpan where
  start : Nat
  stop : Nat
  style : TextStyle

structure Styled where
  text : String
  spans : List StyledSpan

/-- How code is set, and whether checkboxes show. -/
structure InlineRules where
  codeFont : String
  keepCheckboxes : Bool := true

def checkboxMark : String := "class=\"task-list-item-checkbox\""
def checkedMark : String := "checked=\"checked\""

/-- Whether `part` occurs in `cs`. -/
def occursIn (part : List Char) : List Char → Bool
  | [] => part.isEmpty
  | c :: cs => part.isPrefixOf (c :: cs) || occursIn part cs

def isCheckboxHtml (html : String) : Bool :=
  occursIn checkboxMark.toList html.toList

/-- A checkbox shows as a ballot box; any other HTML is literal text. -/
def InlineRules.htmlText (rules : InlineRules) (html : String) : String :=
  if isCheckboxHtml html then
    if !rules.keepCheckboxes then ""
    else if occursIn checkedMark.toList html.toList then "☑" else "☐"
  else html

/-- The span from `start` on over `text`, unless it is empty. -/
def spanOver (start : Nat) (text : String) (style : TextStyle) : List StyledSpan :=
  if text = "" then [] else [⟨start, start + Text.width text, style⟩]

/-- Adds the span of a node behind the spans inside of it. -/
def Styled.within (s : Styled) (start : Nat) (style : TextStyle) : Styled :=
  { s with spans := s.spans ++ spanOver start s.text style }

mutual

/-- The text of a node that starts at `start`, with its spans. -/
def InlineRules.node (rules : InlineRules) (start : Nat) : Inline → Styled
  | .text s => ⟨s, []⟩
  | .softBreak => ⟨" ", []⟩
  | .hardBreak => ⟨"\n", []⟩
  | .code s => ⟨s, spanOver start s (.ofFont rules.codeFont)⟩
  | .html s => ⟨rules.htmlText s, []⟩
  | .emphasis cs => (rules.all start cs).within start .italics
  | .strong cs => (rules.all start cs).within start .boldface
  | .strike cs => (rules.all start cs).within start .struck
  | .link href cs =>
    if href = "" then rules.all start cs else (rules.all start cs).within start (.ofLink href)
  | .image _ cs => rules.all start cs

def InlineRules.all (rules : InlineRules) (start : Nat) : List Inline → Styled
  | [] => ⟨"", []⟩
  | i :: is =>
    let first := rules.node start i
    let rest := rules.all (start + Text.width first.text) is
    ⟨first.text ++ rest.text, first.spans ++ rest.spans⟩

end

def InlineRules.styled (rules : InlineRules) (content : List Inline) : Styled :=
  rules.all 0 content

/-- Styles text that was inserted at `start`. -/
def Styled.apply (s : Styled) (start : Int) (b : Edit.Builder) : Except Refusal Edit.Builder :=
  s.spans.foldlM (fun b span => b.styleText (start + span.start) (start + span.stop) span.style) b

end Docwright.Markdown
