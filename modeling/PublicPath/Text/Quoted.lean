/-!
# Single-quoted script literals

A backslash and a quote are escaped by a backslash, and each of the four line terminators of the
script language by its own escape, so that the literal always stays on one line.
-/

namespace PublicPath.Text

/-- How one character stands inside a single-quoted literal. -/
def quoteEscape (c : Char) : List Char :=
  match c with
  | '\\' => ['\\', '\\']
  | '\'' => ['\\', '\'']
  | '\n' => ['\\', 'n']
  | '\r' => ['\\', 'r']
  | '\u2028' => ['\\', 'u', '2', '0', '2', '8']
  | '\u2029' => ['\\', 'u', '2', '0', '2', '9']
  | c => [c]

/-- The literal of a text, with its quotes. -/
def quote (cs : List Char) : List Char :=
  '\'' :: (cs.flatMap quoteEscape ++ ['\''])

def singleQuoted (value : String) : String :=
  String.ofList (quote value.toList)

end PublicPath.Text
