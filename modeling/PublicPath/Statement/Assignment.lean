import PublicPath.Statement.Target
import PublicPath.Statement.Value

/-!
# Assignment statements

The generated statement is one simple assignment: a target, a plain `=`, an expression and an
optional semicolon. `Assignment.parse` accepts exactly that shape and returns its parts.
-/

namespace PublicPath

open Text Statement

/-- A half-open range of byte offsets. -/
structure Span where
  start : Nat
  stop : Nat
deriving DecidableEq, Repr

/-- The two sides of an assignment as written, blanks around them left out. -/
structure Assignment where
  target : String
  value : String
  targetSpan : Span
  valueSpan : Span
deriving DecidableEq, Repr

namespace Assignment

def isOperatorChar (c : Char) : Bool :=
  "+-*/%&|^<>!?~".toList.contains c

/-- The text behind a plain assignment operator. -/
def scanOperator (offset : Nat) : List Char → Except StatementError (List Char)
  | [] => .error (.missingOperator offset)
  | '=' :: '=' :: _ => .error (.unsupportedOperator "==" offset)
  | '=' :: '>' :: _ => .error (.unsupportedOperator "=>" offset)
  | '=' :: rest => .ok rest
  | c :: rest =>
    if isOperatorChar c then
      let marks := c :: rest.takeWhile isOperatorChar
      let tail := (rest.dropWhile isOperatorChar).takeWhile (· = '=')
      .error (.unsupportedOperator (String.ofList (marks ++ tail.take 1)) offset)
    else .error (.invalidTarget c offset)

/-- Reads a source as one assignment. -/
def parse (source : String) : Except StatementError Assignment := do
  let cs := source.toList
  let start := byteLength (leadingBlanks cs)
  if skipBlanks cs = [] then throw .empty
  let (target, left) ← scanTarget start (skipBlanks cs)
  let stop := start + byteLength target
  let left' ← scanOperator (stop + byteLength (leadingBlanks left)) (skipBlanks left)
  let behind := stop + byteLength (leadingBlanks left) + 1
  let scanned ← scanValue .start behind left'
  let value := dropEndWhile isBlank (skipBlanks scanned)
  if value = [] then throw (.emptyValue behind)
  let first := behind + byteLength (leadingBlanks scanned)
  return {
    target := String.ofList target
    value := String.ofList value
    targetSpan := ⟨start, stop⟩
    valueSpan := ⟨first, first + byteLength value⟩ }

end Assignment

end PublicPath
