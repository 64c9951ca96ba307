import Docwright.Text.Printable

namespace Docwright.Text

/-- `n` in lower-case hexadecimal, padded with zeros to `places`. -/
def hex (places n : Nat) : String :=
  let ds := Nat.toDigits 16 n
  String.ofList (List.replicate (places - ds.length) '0' ++ ds)

def escapeIn (quote c : Char) : String :=
  if c == quote || c == '\\' then String.ofList ['\\', c]
  else if c == '\n' then "\\n"
  else if c == '\r' then "\\r"
  else if c == '\t' then "\\t"
  else if isPrintable c then String.singleton c
  else if c.toNat < 0x100 then "\\x" ++ hex 2 c.toNat
  else if c.toNat < 0x10000 then "\\u" ++ hex 4 c.toNat
  else "\\U" ++ hex 8 c.toNat

/-- Single quotes are preferred; a text that holds single quotes only takes double ones. -/
def quoteFor (s : String) : Char :=
  if s.toList.contains '\'' && !s.toList.contains '"' then '"' else '\''

def quoted (s : String) : String :=
  let q := String.singleton (quoteFor s)
  q ++ String.join (s.toList.map (escapeIn (quoteFor s))) ++ q

end Docwright.Text
