/-!
# Positions in a configuration text

A cursor is a text with the place where it starts. Places count characters; a line ends at a line
feed, a carriage return, both together, or one of three other separators.
-/

namespace PublicPath.Yaml

/-- A line and a column, both from zero. -/
structure Mark where
  line : Nat
  column : Nat
deriving DecidableEq, Repr

/-- Why a text is refused, and where. -/
structure Fault where
  problem : String
  mark : Mark
  /-- What was being read, and where it began. -/
  context : Option (String × Mark)
deriving DecidableEq, Repr

def Mark.text (m : Mark) : String := s!" at line {m.line + 1} column {m.column + 1}"

/-- The place of a fault is left out at the very start of the text. -/
def Fault.message (f : Fault) : String :=
  let start : Mark := ⟨0, 0⟩
  let place := if f.mark = start then "" else f.mark.text
  let context := match f.context with
    | none => ""
    | some (what, mark) =>
      ", " ++ what ++ (if mark = start ∨ mark = f.mark then "" else mark.text)
  f.problem ++ place ++ context

/-! ## Characters -/

def isSpaceOrTab (c : Char) : Bool := c == ' ' || c == '\t'

def isBreak (c : Char) : Bool :=
  c == '\r' || c == '\n' || c == '\u0085' || c == '\u2028' || c == '\u2029'

/-- Blank, a line break, or the end of the text. -/
def isGap (c : Option Char) : Bool :=
  match c with
  | none => true
  | some c => isSpaceOrTab c || isBreak c

/-- The characters of names. -/
def isWordChar (c : Char) : Bool := c.isAlphanum || c == '_' || c == '-'

/-- The characters that a text may hold. -/
def isAllowed (c : Char) : Bool :=
  let n := c.toNat
  n = 0x09 || n = 0x0a || n = 0x0d || (0x20 ≤ n && n ≤ 0x7e) || n = 0x85 ||
    (0xa0 ≤ n && n ≤ 0xd7ff) || (0xe000 ≤ n && n ≤ 0xfffd) || 0x10000 ≤ n

/-! ## Cursors -/

structure Cursor where
  rest : List Char
  index : Nat
  mark : Mark

namespace Cursor

def start (cs : List Char) : Cursor := ⟨cs, 0, ⟨0, 0⟩⟩

def column (c : Cursor) : Nat := c.mark.column

def head? (c : Cursor) : Option Char := c.rest.head?

/-- The character that stands `n` characters further. -/
def ahead (c : Cursor) (n : Nat) : Option Char := c.rest[n]?

/-- Goes on by some characters of the line. -/
def skip (c : Cursor) (n : Nat) : Cursor :=
  ⟨c.rest.drop n, c.index + n, { c.mark with column := c.mark.column + n }⟩

/-- Goes on over the characters of a class. -/
def skipWhile (c : Cursor) (p : Char → Bool) : Cursor := c.skip (c.rest.takeWhile p).length

def atBreak (c : Cursor) : Bool :=
  match c.rest with
  | x :: _ => isBreak x
  | [] => false

def atSpaceOrTab (c : Cursor) : Bool :=
  match c.rest with
  | x :: _ => isSpaceOrTab x
  | [] => false

/-- A line break as a text keeps it, and the start of the next line. Elsewhere nothing is read. -/
def readBreak (c : Cursor) : List Char × Cursor :=
  let next : Mark := ⟨c.mark.line + 1, 0⟩
  match c.rest with
  | '\r' :: '\n' :: rest => (['\n'], ⟨rest, c.index + 2, next⟩)
  | x :: rest =>
    if x = '\u2028' ∨ x = '\u2029' then ([x], ⟨rest, c.index + 1, next⟩)
    else if isBreak x then (['\n'], ⟨rest, c.index + 1, next⟩)
    else ([], c)
  | [] => ([], c)

/-- Three equal marks that stand alone at the start of a line. -/
def atDocumentMark (c : Cursor) (x : Char) : Bool :=
  c.column = 0 && c.rest.take 3 = [x, x, x] && isGap (c.ahead 3)

def atDocumentBoundary (c : Cursor) : Bool := c.atDocumentMark '-' || c.atDocumentMark '.'

def fault (c : Cursor) (problem : String) : Fault := ⟨problem, c.mark, none⟩

def faultIn (c : Cursor) (problem context : String) (begun : Mark) : Fault :=
  ⟨problem, c.mark, some (context, begun)⟩

end Cursor

end PublicPath.Yaml
