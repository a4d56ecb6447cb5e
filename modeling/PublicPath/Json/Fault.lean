/-!
# Faults in a text of the data format

A fault is found while reading from left to right, at the place where the text cannot go on.
-/

namespace PublicPath.Json

inductive FaultKind where
  /-- The text stops inside a value. -/
  | endOfText
  /-- The text is well formed so far but is not what the reader asks for. -/
  | mismatch
  /-- Anything else. -/
  | malformed
deriving DecidableEq, Repr

structure Fault where
  kind : FaultKind
  /-- How many characters stand behind the place of the fault. -/
  left : Nat
deriving DecidableEq, Repr

def FaultKind.message : FaultKind → String
  | endOfText => "unexpected end of text"
  | mismatch => "unexpected type of value"
  | malformed => "malformed text"

/-- The fault and its line and column in a source. -/
def Fault.message (f : Fault) (source : List Char) : String :=
  let before := source.take (source.length - f.left)
  let line := before.count '\n' + 1
  let column := (before.reverse.takeWhile (· ≠ '\n')).length
  s!"{f.kind.message} at line {line} column {column}"

/-- The fault of a text that does not go on as it must: it ends, or something else stands here. -/
def Fault.at : List Char → Fault
  | [] => ⟨.endOfText, 0⟩
  | cs => ⟨.malformed, cs.length⟩

end PublicPath.Json
