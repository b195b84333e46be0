import Scaffold.Text.Printable

/-!
# Quoted text

Messages and printed collections show a text between quotes, with everything that would not show
spelled out: the usual short escapes, and `\u{…}` with the code point in lower case hexadecimal for
marks and for characters that leave no ink.
-/

namespace Scaffold.Text

/-- The code point of a character in braces, as messages spell it. -/
def codePointEscape (c : Char) : String :=
  "\\u\x7b" ++ String.ofList (Nat.toDigits 16 c.toNat) ++ "\x7d"

/-- One character between quotes of the given kind. -/
def quoteChar (quote : Char) (c : Char) : String :=
  if c = '\x00' then "\\0"
  else if c = '\t' then "\\t"
  else if c = '\r' then "\\r"
  else if c = '\n' then "\\n"
  else if c = '\\' then "\\\\"
  else if c = quote then String.ofList ['\\', c]
  else if isMark c || !isPrintable c then codePointEscape c
  else c.toString

/-- A text in double quotes. -/
def quoted (s : String) : String :=
  "\"" ++ String.join (s.toList.map (quoteChar '"')) ++ "\""

/-- A character in single quotes. -/
def quotedChar (c : Char) : String := "'" ++ quoteChar '\'' c ++ "'"

end Scaffold.Text
