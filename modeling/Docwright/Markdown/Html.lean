import Docwright.Markdown.Character

/-!
Raw HTML: tags in running text, and the seven ways in which a block of HTML starts and ends.
-/

namespace Docwright.Markdown.Html

/-- What follows `word` at the start of `cs`, when it stands there. -/
def after? (word : String) (cs : List Char) : Option (List Char) :=
  if word.toList.isPrefixOf cs then some (cs.drop word.length) else none

/-- What follows the first place of `word`. -/
def afterFirst? (word : String) : List Char → Option (List Char)
  | [] => after? word []
  | c :: cs =>
    match after? word (c :: cs) with
    | some rest => some rest
    | none => afterFirst? word cs

def dropBlanks (cs : List Char) : List Char :=
  cs.dropWhile Text.isBlank

def isNameStart (c : Char) : Bool :=
  c.isAlpha || c == '_' || c == ':'

def isNameChar (c : Char) : Bool :=
  isAlphanumeric c || c == ':' || c == '.' || c == '_' || c == '-'

def isTagNameChar (c : Char) : Bool :=
  isAlphanumeric c || c == '-'

def isBareValueChar (c : Char) : Bool :=
  !(c == '"' || c == '\'' || c == '=' || c == '<' || c == '>' || c == '\x60' || c.toNat ≤ 0x20)

/-- What may follow a value without quotes: the longest one first, then those cut at a blank. -/
def afterBareValue (cs : List Char) : List (List Char) :=
  let value := cs.takeWhile isBareValueChar
  if value.isEmpty then []
  else
    let cuts := (List.range value.length).reverse.filterMap fun k =>
      let rest := cs.drop k
      if k != 0 && (rest.head?.map Text.isBlank).getD false then some rest else none
    cs.drop value.length :: cuts

/-- What may follow a value. -/
def afterValue (cs : List Char) : List (List Char) :=
  match cs with
  | '"' :: rest => match rest.dropWhile (· != '"') with
    | _ :: after => [after]
    | [] => []
  | '\'' :: rest => match rest.dropWhile (· != '\'') with
    | _ :: after => [after]
    | [] => []
  | _ => afterBareValue cs

/-- What may follow an optional value: with the value, then without. -/
def afterOptionalValue (cs : List Char) : List (List Char) :=
  match dropBlanks cs with
  | '=' :: rest => afterValue (dropBlanks rest) ++ [cs]
  | _ => [cs]

def tagEnd? (cs : List Char) : Option (List Char) :=
  match dropBlanks cs with
  | '/' :: '>' :: rest => some rest
  | '>' :: rest => some rest
  | _ => none

/-- What follows the attributes and the end of an opening tag. -/
def attributes? : Nat → List Char → Option (List Char)
  | 0, _ => none
  | fuel + 1, cs =>
    let more := match cs with
      | c :: _ =>
        if Text.isBlank c then
          match dropBlanks cs with
          | n :: rest =>
            if isNameStart n then
              (afterOptionalValue (rest.dropWhile isNameChar)).findSome? (attributes? fuel)
            else none
          | [] => none
        else none
      | [] => none
    more.or (tagEnd? cs)

def openTag? (cs : List Char) : Option (List Char) :=
  match cs with
  | '<' :: c :: rest =>
    if c.isAlpha then attributes? (cs.length + 1) (rest.dropWhile isTagNameChar) else none
  | _ => none

def closeTag? (cs : List Char) : Option (List Char) :=
  match cs with
  | '<' :: '/' :: c :: rest =>
    if c.isAlpha then
      match dropBlanks (rest.dropWhile isTagNameChar) with
      | '>' :: after => some after
      | _ => none
    else none
  | _ => none

def commentBody? : List Char → Option (List Char)
  | '-' :: '-' :: '>' :: rest => some rest
  | '-' :: '-' :: _ :: rest => commentBody? rest
  | ['-', '-'] => none
  | '-' :: _ :: rest => commentBody? rest
  | ['-'] => none
  | _ :: rest => commentBody? rest
  | [] => none

def comment? (cs : List Char) : Option (List Char) :=
  (after? "<!-->" cs).or ((after? "<!--->" cs).or ((after? "<!--" cs).bind commentBody?))

def processing? (cs : List Char) : Option (List Char) :=
  (after? "<?" cs).bind (afterFirst? "?>")

def declaration? (cs : List Char) : Option (List Char) :=
  match cs with
  | '<' :: '!' :: c :: rest => if c.isAlpha then afterFirst? ">" rest else none
  | _ => none

def cdata? (cs : List Char) : Option (List Char) :=
  (after? "<![CDATA[" cs).bind (afterFirst? "]]>")

/-- What follows the tag, comment, instruction, declaration or section at the start of `cs`. -/
def tag? (cs : List Char) : Option (List Char) :=
  [openTag?, closeTag?, comment?, processing?, declaration?, cdata?].findSome? (· cs)

/-- How the end of a block is recognised. -/
inductive Ending where
  | rawText
  | mark (word : String)
  | emptyLine

def rawTextNames : List String :=
  ["script", "pre", "style", "textarea"]

def blockNames : List String :=
  ["address", "article", "aside", "base", "basefont", "blockquote", "body", "caption", "center",
    "col", "colgroup", "dd", "details", "dialog", "dir", "div", "dl", "dt", "fieldset",
    "figcaption", "figure", "footer", "form", "frame", "frameset", "h1", "h2", "h3", "h4", "h5",
    "h6", "head", "header", "hr", "html", "iframe", "legend", "li", "link", "main", "menu",
    "menuitem", "nav", "noframes", "ol", "optgroup", "option", "p", "param", "search", "section",
    "summary", "table", "tbody", "td", "tfoot", "th", "thead", "title", "tr", "track", "ul"]

/-- A name in any case, followed by something that ends it. -/
def startsWithName (names : List String) (ends : List Char → Bool) (cs : List Char) : Bool :=
  names.any fun name =>
    name.toList.isPrefixOf ((cs.take name.length).map foldLetter) && ends (cs.drop name.length)

def endsRawName : List Char → Bool
  | [] => true
  | c :: _ => Text.isBlank c || c == '>'

def endsBlockName : List Char → Bool
  | [] => true
  | '/' :: '>' :: _ => true
  | c :: _ => Text.isBlank c || c == '>'

def dropSlash : List Char → List Char
  | '/' :: cs => cs
  | cs => cs

/-- How the block that a line starts ends, and whether it may interrupt a paragraph. -/
def blockStart? (line : List Char) : Option (Ending × Bool) :=
  match line with
  | '<' :: rest =>
    if startsWithName rawTextNames endsRawName rest then some (.rawText, true)
    else if (after? "!--" rest).isSome then some (.mark "-->", true)
    else if (after? "?" rest).isSome then some (.mark "?>", true)
    else if (match rest with | '!' :: c :: _ => c.isUpper | _ => false) then some (.mark ">", true)
    else if (after? "![CDATA[" rest).isSome then some (.mark "]]>", true)
    else if startsWithName blockNames endsBlockName (dropSlash rest) then some (.emptyLine, true)
    else match (openTag? line).or (closeTag? line) with
      | some after => if after.all Text.isBlank then some (.emptyLine, false) else none
      | none => none
  | _ => none

def holdsRawEnd : List Char → Bool
  | [] => false
  | c :: cs =>
    (match c :: cs with
      | '<' :: '/' :: rest => startsWithName rawTextNames (·.head? == some '>') rest
      | _ => false) || holdsRawEnd cs

def Ending.inLine (e : Ending) (line : List Char) : Bool :=
  match e with
  | .rawText => holdsRawEnd line
  | .mark word => (afterFirst? word line).isSome
  | .emptyLine => line.isEmpty

end Docwright.Markdown.Html
