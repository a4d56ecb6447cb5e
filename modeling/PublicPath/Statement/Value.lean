import PublicPath.Text.Basic
import PublicPath.Statement.Error
import PublicPath.Statement.Lexeme

/-!
# Values

The value of an assignment reaches to the first semicolon outside all brackets, or to the end of
the source. Its brackets are balanced, and no other assignment stands at its top level.
-/

namespace PublicPath.Statement

open Text

/-- What the lexemes so far mean for the next one. -/
structure Context where
  /-- The brackets that are open, innermost first, with their offsets. -/
  opened : List (Char × Nat)
  /-- The last character outside comments; of a literal, its delimiter. -/
  previous : Char
  /-- The last character that is neither blank nor in a comment; of a regular expression, `)`. -/
  significant : Char
deriving DecidableEq, Repr

/-- Right behind the assignment operator. -/
def Context.start : Context := ⟨[], '=', '='⟩

/-- The bracket that a closing one closes. -/
def openerOf (c : Char) : Option Char :=
  if c = ')' then some '('
  else if c = ']' then some '['
  else if c = '\x7d' then some '\x7b'
  else none

def isOpener (c : Char) : Bool :=
  c == '(' || c == '[' || c == '\x7b'

/-- Whether an equals sign between these two belongs to a comparison or an arrow. -/
def isComparison (before : Char) (after : Option Char) : Bool :=
  before == '=' || before == '!' || before == '<' || before == '>' ||
    after == some '=' || after == some '>'

/-- The context behind a lexeme at `offset`, where `after` is the character that follows it; none
where the lexeme ends the statement. -/
def Context.step (s : Context) (offset : Nat) (x : Lexeme) (after : Option Char) :
    Except StatementError (Option Context) :=
  match x with
  | .comment _ => .ok (some s)
  | .blank c => .ok (some { s with previous := c })
  | .regex _ => .ok (some { s with previous := '/', significant := ')' })
  | .quoted q _ => .ok (some { s with previous := q, significant := q })
  | .mark c =>
    let behind := { s with previous := c, significant := c }
    if isOpener c then .ok (some { behind with opened := (c, offset) :: s.opened })
    else match openerOf c with
      | some opener =>
        match s.opened with
        | (d, _) :: outer =>
          if d = opener then .ok (some { behind with opened := outer })
          else .error (.unbalancedDelimiter c offset)
        | [] => .error (.unbalancedDelimiter c offset)
      | none =>
        if c = ';' ∧ s.opened = [] then .ok none
        else if c = '=' ∧ s.opened = [] ∧ ¬ isComparison s.previous after then
          .error (.chainedAssignment offset)
        else .ok (some behind)

theorem Comment.read_length_lt {cs text rest : List Char}
    (h : Comment.read cs = .closed text rest) : rest.length < cs.length := by
  rw [← Comment.read_append h, List.length_append]
  have := List.length_pos_iff.2 (Comment.text_ne_nil h)
  omega

/-- Accepts blanks and comments up to the end of the source. -/
def checkTrailing (offset : Nat) (cs : List Char) : Except StatementError Unit :=
  match cs with
  | [] => .ok ()
  | c :: rest =>
    if isBlank c then checkTrailing (offset + c.utf8Size) rest
    else match h : Comment.read (c :: rest) with
      | .closed text left =>
        have := Comment.read_length_lt h
        checkTrailing (offset + byteLength text) left
      | .unclosed => .error (.unterminatedLiteral '*' offset)
      | .absent => .error (.trailingCode offset)
termination_by cs.length
decreasing_by all_goals simp only [List.length_cons] at *; omega

/-- The text up to the end of the statement, once what stands behind that end is checked. -/
def scanValue (s : Context) (offset : Nat) (cs : List Char) : Except StatementError (List Char) :=
  match cs with
  | [] =>
    match s.opened with
    | [] => .ok []
    | (delimiter, place) :: _ => .error (.unbalancedDelimiter delimiter place)
  | c :: rest =>
    match h : Lexeme.next s.significant c rest with
    | .error q => .error (.unterminatedLiteral q offset)
    | .ok (x, left) =>
      have := next_length_lt h
      let behind := offset + byteLength x.text
      match s.step offset x left.head? with
      | .error e => .error e
      | .ok none => (checkTrailing behind left).map fun _ => []
      | .ok (some s) => (scanValue s behind left).map (x.text ++ ·)
termination_by cs.length
decreasing_by simp only [List.length_cons] at *; omega

end PublicPath.Statement
