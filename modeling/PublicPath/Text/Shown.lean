import PublicPath.Text.Basic
import PublicPath.Text.Extending
import PublicPath.Text.Printable

/-!
# Characters and texts as messages show them

A message quotes what it found. Inside the quotes a character without a shape of its own is written
by its code point, and a delimiter by a backslash.
-/

namespace PublicPath.Text

/-- One character between delimiters of the given class. -/
def shownEscape (isDelimiter : Char → Bool) (c : Char) : String :=
  if c = '\x00' then "\\0"
  else if c = '\t' then "\\t"
  else if c = '\r' then "\\r"
  else if c = '\n' then "\\n"
  else if c = '\\' || isDelimiter c then String.ofList ['\\', c]
  else if isExtending c || !isPrintable c then "\\u\x7b" ++ hexDigits c.toNat ++ "\x7d"
  else c.toString

/-- A character between single quotes. -/
def shownChar (c : Char) : String :=
  "'" ++ shownEscape (· == '\'') c ++ "'"

/-- A text between double quotes. -/
def shownText (s : String) : String :=
  "\"" ++ String.join (s.toList.map (shownEscape (· == '"'))) ++ "\""

/-- A file path between double quotes; quotes of both kinds are escaped in it. -/
def shownPath (s : String) : String :=
  "\"" ++ String.join (s.toList.map (shownEscape fun c => c == '"' || c == '\'')) ++ "\""

end PublicPath.Text
