import Docwright.Json.Shown
import Docwright.Number.Reading

namespace Docwright

inductive Refusal where
  | color (parameter : String) (given : Json)
  | fontSize
  | namedStyle (name : String)
  | alignment (name : String)
  | noListKind
  | listKind (name : String)
  | noItems
  | blankItem (position : Nat)
  | negativeIndent
  | deepIndent
  | invertedRange (start stop : Int)
  | startIndex (given : Int)
  | tableSize
  | emptyFind
  | noAttempts
  | negativeBackoff
  | shrinkingBackoff
  | notInteger (setting given : String)
  | notNumber (setting given : String)
  | longInteger (digits : Nat)

def quoteList (names : List String) : String :=
  String.intercalate ", " names

namespace Refusal

def minFontSize : Int := 8
def maxFontSize : Int := 72
def maxIndent : Int := 9

def styleNames : List String :=
  ["heading1", "heading2", "heading3", "heading4", "title", "subtitle", "normal"]

def alignmentNames : List String :=
  ["left", "center", "right", "justify"]

def listKindNames : List String :=
  ["bullet", "numbered", "lettered", "roman", "checklist"]

def message : Refusal → String
  | .color parameter given =>
    s!"{parameter} must be a hex string like '#RRGGBB', got {given.shown}"
  | .fontSize => s!"font size must be between {minFontSize} and {maxFontSize} points"
  | .namedStyle name => s!"invalid named style: {name} (valid: {quoteList styleNames})"
  | .alignment name => s!"invalid alignment: {name} (valid: {quoteList alignmentNames})"
  | .noListKind => "list type cannot be empty"
  | .listKind name => s!"invalid list type: {name} (valid: {quoteList listKindNames})"
  | .noItems => "list items cannot be empty"
  | .blankItem position => s!"list item {position} is empty or whitespace only"
  | .negativeIndent => "indent level cannot be negative"
  | .deepIndent => s!"indent level cannot exceed {maxIndent}"
  | .invertedRange start stop => s!"Invalid range: start {start} is after end {stop}"
  | .startIndex given => s!"start_index must be at least 1, got {given}"
  | .tableSize => "rows and columns must be at least 1"
  | .emptyFind => "find text cannot be empty"
  | .noAttempts => "max_attempts must be at least 1"
  | .negativeBackoff => "backoff durations cannot be negative"
  | .shrinkingBackoff => "multiplier must be at least 1"
  | .notInteger setting given => s!"{setting} must be an integer, got {Text.quoted given}"
  | .notNumber setting given => s!"{setting} must be a number, got {Text.quoted given}"
  | .longInteger digits =>
    s!"Exceeds the limit ({Number.maxDigits} digits) for integer string conversion: value has " ++
      s!"{digits} digits; use sys.set_int_max_str_digits() to increase the limit"

end Refusal

end Docwright
