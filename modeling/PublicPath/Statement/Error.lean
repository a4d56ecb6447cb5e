import PublicPath.Text.Shown

/-!
# Why a text is not a single assignment

Offsets are bytes from the start of the source.
-/

namespace PublicPath

/-- The ways in which a source fails to be one assignment statement. -/
inductive StatementError where
  /-- Nothing but white space. -/
  | empty
  /-- The source ends inside or right after the target. -/
  | missingOperator (offset : Nat)
  /-- Another operator stands where the plain assignment is expected. -/
  | unsupportedOperator (operator : String) (offset : Nat)
  /-- A character that no target can hold at this place. -/
  | invalidTarget (found : Char) (offset : Nat)
  /-- Nothing but white space after the operator. -/
  | emptyValue (offset : Nat)
  /-- A second assignment at the top level of the value. -/
  | chainedAssignment (offset : Nat)
  /-- A literal or block comment that never ends, named by what opens it. -/
  | unterminatedLiteral (quote : Char) (offset : Nat)
  /-- A bracket without its partner. -/
  | unbalancedDelimiter (delimiter : Char) (offset : Nat)
  /-- More than comments after the end of the statement. -/
  | trailingCode (offset : Nat)
deriving DecidableEq, Repr

namespace StatementError

def message : StatementError → String
  | empty => "generated code is empty"
  | missingOperator offset => s!"expected '=' after assignment target at offset {offset}"
  | unsupportedOperator operator offset =>
    s!"unsupported operator '{operator}' at offset {offset}, expected '='"
  | invalidTarget found offset =>
    s!"invalid assignment target: unexpected {Text.shownChar found} at offset {offset}"
  | emptyValue offset => s!"assignment has no value at offset {offset}"
  | chainedAssignment offset => s!"chained assignment at offset {offset}"
  | unterminatedLiteral quote offset =>
    s!"unterminated {quote} literal starting at offset {offset}"
  | unbalancedDelimiter delimiter offset => s!"unbalanced '{delimiter}' at offset {offset}"
  | trailingCode offset => s!"unexpected code after the statement at offset {offset}"

end StatementError

end PublicPath
