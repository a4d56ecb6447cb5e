import PublicPath.Statement.Assignment
import PublicPath.Text.Place

/-!
# A cursor over the bytes of a source

The scanners of statements take lists of characters apart. The cursor reads the same grammar in the
UTF-8 form of a source, where it keeps nothing but the byte it stands at. It checks what it relies
on: every place it moves to or cuts the source at stands between two characters, and every turn of
a loop that goes on has moved forward.
-/

namespace PublicPath.Statement.Cursor

open Text

/-- Why the cursor stops without an assignment. -/
inductive Halt where
  | refused (e : StatementError)
  /-- A byte that is not between two characters of the source. -/
  | offText
  /-- A turn of a loop that goes on where it began or in front of it. -/
  | stalled
  /-- A loop that goes on when all turns are used up. -/
  | outOfTurns

/-- What a turn of a loop comes to. -/
inductive Turn (σ ρ : Type) where
  | again (s : σ) (next : Nat)
  | ended (result : ρ)

/-- Takes turns until one ends the loop, and returns how many are left. -/
def repeatTurns {σ ρ : Type} (turn : σ → Nat → Except Halt (Turn σ ρ)) :
    Nat → σ → Nat → Except Halt (ρ × Nat)
  | 0, _, _ => .error .outOfTurns
  | turns + 1, s, pos =>
    match turn s pos with
    | .error halt => .error halt
    | .ok (.ended result) => .ok (result, turns)
    | .ok (.again t next) => if pos < next then repeatTurns turn turns t next else .error .stalled

/-- What a character means inside a literal. -/
inductive Verdict (σ : Type) where
  | closes
  | breaks
  | goesOn (s : σ)

def quotedVerdict (q : Char) (_ : Unit) (c : Char) : Verdict Unit :=
  if c = q then .closes
  else if c = '\n' ∧ q ≠ '`' then .breaks
  else .goesOn ()

/-- Inside a regular expression the state is whether a character class is open. -/
def regexVerdict (inClass : Bool) (c : Char) : Verdict Bool :=
  if c = '/' ∧ inClass = false then .closes
  else if c = '\n' then .breaks
  else .goesOn (classAfter inClass c)

/-! ## Places -/

section

variable (source : String)

/-- The text from a byte on. -/
def ahead (pos : Nat) : Except Halt (List Char) :=
  if h : String.Pos.Raw.IsValid source ⟨pos⟩ then
    .ok (source.sliceFrom ⟨⟨pos⟩, h⟩).copy.toList
  else .error .offText

/-- The text up to a byte. -/
def upTo (pos : Nat) : Except Halt String :=
  if h : String.Pos.Raw.IsValid source ⟨pos⟩ then .ok (source.sliceTo ⟨⟨pos⟩, h⟩).copy
  else .error .offText

def between (start stop : Nat) : Except Halt (List Char) := do
  ahead (← upTo source stop) start

def moveTo (pos : Nat) : Except Halt Nat :=
  if String.Pos.Raw.IsValid source ⟨pos⟩ then .ok pos else .error .offText

def peek (pos : Nat) : Except Halt (Option Char) := do
  return (← ahead source pos).head?

def peekNext (pos : Nat) : Except Halt (Option Char) := do
  return (← ahead source pos)[1]?

/-- Moves behind the character that stands at a byte. -/
def past (pos : Nat) (c : Char) : Except Halt Nat :=
  moveTo source (pos + c.utf8Size)

def bump (pos : Nat) : Except Halt (Option Char × Nat) := do
  match ← peek source pos with
  | none => return (none, pos)
  | some c => return (some c, ← past source pos c)

def unexpected {α : Type} (pos : Nat) : Except Halt α := do
  throw (.refused (unexpectedAt pos (← ahead source pos)))

end

section

variable {ε α β : Type}

@[simp] theorem ok_bind (a : α) (f : α → Except ε β) : (.ok a >>= f) = f a := rfl

@[simp] theorem pure_eq_ok (a : α) : (pure a : Except ε α) = .ok a := rfl

@[simp] theorem throw_eq_error (e : ε) : (throw e : Except ε α) = .error e := rfl

end

section

variable {source : String} {pos : Nat} {cs rest : List Char} {c : Char}

theorem ahead_eq (h : StandsAt source.toList pos cs) : ahead source pos = .ok cs := by
  rw [ahead, dif_pos h.isValid]
  obtain ⟨front, hsource, rfl⟩ := h
  rw [(eq_of_cut hsource rfl).2]

theorem upTo_eq {front : List Char} (h : source.toList = front ++ cs) :
    upTo source (byteLength front) = .ok (String.ofList front) := by
  have hplace : StandsAt source.toList (byteLength front) cs := ⟨front, h, rfl⟩
  rw [upTo, dif_pos hplace.isValid, (eq_of_cut h rfl).1]

theorem between_eq {text back : List Char} (h : StandsAt source.toList pos (text ++ back)) :
    between source pos (pos + byteLength text) = .ok text := by
  obtain ⟨front, hsource, rfl⟩ := h
  have hcut : source.toList = front ++ text ++ back := by
    rw [hsource, List.append_assoc]
  have hplace : StandsAt (String.ofList (front ++ text)).toList (byteLength front) text :=
    ⟨front, String.toList_ofList, rfl⟩
  rw [between, ← byteLength_append, upTo_eq hcut]
  exact ahead_eq hplace

theorem moveTo_eq (h : StandsAt source.toList pos cs) : moveTo source pos = .ok pos := by
  rw [moveTo, if_pos h.isValid]

theorem peek_eq (h : StandsAt source.toList pos cs) : peek source pos = .ok cs.head? := by
  rw [peek, ahead_eq h]
  rfl

theorem peekNext_eq (h : StandsAt source.toList pos cs) : peekNext source pos = .ok cs[1]? := by
  rw [peekNext, ahead_eq h]
  rfl

theorem past_eq (h : StandsAt source.toList pos (c :: rest)) :
    past source pos c = .ok (pos + c.utf8Size) :=
  moveTo_eq h.tail

theorem bump_eq (h : StandsAt source.toList pos cs) :
    bump source pos = .ok (cs.head?, pos + byteLength (cs.take 1)) := by
  rw [bump, peek_eq h]
  cases cs with
  | nil => rfl
  | cons c rest => simp [past_eq h]

theorem unexpected_eq {α : Type} (h : StandsAt source.toList pos cs) :
    (unexpected source pos : Except Halt α) = .error (.refused (unexpectedAt pos cs)) := by
  rw [unexpected, ahead_eq h]
  rfl

end

section Source

variable (source : String)

/-! ## Scanners -/

/-- A loop inside a scanner, which has a turn for every byte and one to end in. -/
def within {σ ρ : Type} (turn : σ → Nat → Except Halt (Turn σ ρ)) (s : σ) (pos : Nat) :
    Except Halt ρ :=
  (repeatTurns turn (source.utf8ByteSize + 1) s pos).map Prod.fst

def whileTurn (p : Char → Bool) (_ : Unit) (pos : Nat) : Except Halt (Turn Unit Nat) := do
  match ← peek source pos with
  | none => return .ended pos
  | some c => if p c then return .again () (← past source pos c) else return .ended pos

def skipWhile (p : Char → Bool) (pos : Nat) : Except Halt Nat :=
  within source (whileTurn source p) () pos

def identifier (pos : Nat) : Except Halt Nat := do
  match ← peek source pos with
  | none => unexpected source pos
  | some c =>
    if isIdentifierStart c then skipWhile source isIdentifierPart (← past source pos c)
    else unexpected source pos

/-- A character inside the literal that `q` opens. A backslash takes the next character along. -/
def literalTurn {σ : Type} (verdict : σ → Char → Verdict σ) (q : Char) (start : Nat) (s : σ)
    (pos : Nat) : Except Halt (Turn σ Nat) := do
  match ← bump source pos with
  | (none, _) => throw (.refused (.unterminatedLiteral q start))
  | (some c, next) =>
    if c = '\\' then
      let (_, behind) ← bump source next
      return .again s behind
    else match verdict s c with
      | .closes => return .ended next
      | .breaks => throw (.refused (.unterminatedLiteral q start))
      | .goesOn t => return .again t next

def quotedTurn (q : Char) (start : Nat) : Unit → Nat → Except Halt (Turn Unit Nat) :=
  literalTurn source (quotedVerdict q) q start

def regexTurn (start : Nat) : Bool → Nat → Except Halt (Turn Bool Nat) :=
  literalTurn source regexVerdict '/' start

def quotedLiteral (q : Char) (start : Nat) : Except Halt Nat := do
  let (_, pos) ← bump source start
  within source (quotedTurn source q start) () pos

def regexLiteral (start : Nat) : Except Halt Nat := do
  let (_, pos) ← bump source start
  let pos ← within source (regexTurn source start) false pos
  skipWhile source isIdentifierPart pos

/-- The bytes in front of the first end mark of a block comment. -/
def findBlockEnd : List Char → Option Nat
  | [] => none
  | '*' :: '/' :: _ => some 0
  | c :: rest => (findBlockEnd rest).map (c.utf8Size + ·)

/-- The byte behind the comment that stands here, if there is one. -/
def skipComment (pos : Nat) : Except Halt (Option Nat) := do
  match ← peek source pos, ← peekNext source pos with
  | some '/', some '/' => return some (← skipWhile source (· ≠ '\n') pos)
  | some '/', some '*' =>
    let inside ← moveTo source (pos + 2)
    match findBlockEnd (← ahead source inside) with
    | some bytes => return some (← moveTo source (inside + bytes + 2))
    | none => throw (.refused (.unterminatedLiteral '*' pos))
  | _, _ => return none

def computedKey (pos : Nat) : Except Halt Nat := do
  match ← peek source pos with
  | none => unexpected source pos
  | some c =>
    if c = '"' ∨ c = '\'' then quotedLiteral source c pos
    else if c.isDigit then skipWhile source Char.isDigit pos
    else unexpected source pos

def assignmentOperator (pos : Nat) : Except Halt Nat := do
  match ← peek source pos with
  | none => throw (.refused (.missingOperator pos))
  | some c =>
    if c = '=' then
      match ← peekNext source pos with
      | some '=' => throw (.refused (.unsupportedOperator "==" pos))
      | some '>' => throw (.refused (.unsupportedOperator "=>" pos))
      | _ => past source pos c
    else if Assignment.isOperatorChar c then
      let stop ← skipWhile source Assignment.isOperatorChar pos
      let stop ← if (← peek source stop) = some '=' then past source stop '=' else pure stop
      let operator ← between source pos stop
      throw (.refused (.unsupportedOperator (String.ofList operator) pos))
    else throw (.refused (.invalidTarget c pos))

/-- The name behind a dot. -/
def member (pos : Nat) : Except Halt Nat := do
  identifier source (← skipWhile source isBlank pos)

/-- The key behind an opening bracket, and the closing one. -/
def index (pos : Nat) : Except Halt Nat := do
  let pos ← computedKey source (← skipWhile source isBlank pos)
  let pos ← skipWhile source isBlank pos
  if (← peek source pos) = some ']' then past source pos ']' else unexpected source pos

/-! ## Loops -/

/-- An access to a member. Where there is none, the cursor goes back in front of the blanks. -/
def accessTurn (_ : Unit) (checkpoint : Nat) : Except Halt (Turn Unit Nat) := do
  let pos ← skipWhile source isBlank checkpoint
  match ← peek source pos with
  | some '.' => return .again () (← member source (← past source pos '.'))
  | some '[' => return .again () (← index source (← past source pos '['))
  | _ => return .ended (← moveTo source checkpoint)

def memberChain (turns pos : Nat) : Except Halt (Nat × Nat) := do
  repeatTurns (accessTurn source) turns () (← identifier source pos)

/-- A lexeme of a value. The loop ends with the end of the value, and with the byte behind the
semicolon if one stands there. -/
def valueTurn (s : Context) (pos : Nat) : Except Halt (Turn Context (Nat × Option Nat)) := do
  match ← peek source pos with
  | none =>
    match s.opened with
    | [] => return .ended (pos, none)
    | (delimiter, place) :: _ => throw (.refused (.unbalancedDelimiter delimiter place))
  | some c =>
    match ← skipComment source pos with
    | some next => return .again s next
    | none =>
      if isBlank c then return .again { s with previous := c } (← past source pos c)
      else if c = '/' ∧ startsOperand s.significant then
        let next ← regexLiteral source pos
        return .again { s with previous := '/', significant := ')' } next
      else if isQuote c then
        let next ← quotedLiteral source c pos
        return .again { s with previous := c, significant := c } next
      else match s.step pos (.mark c) (← peekNext source pos) with
        | .error e => throw (.refused e)
        | .ok none => return .ended (pos, some (← past source pos c))
        | .ok (some t) => return .again t (← past source pos c)

/-- White space and a comment behind the end of a statement. -/
def trailingTurn (_ : Unit) (pos : Nat) : Except Halt (Turn Unit Unit) := do
  let pos ← skipWhile source isBlank pos
  if source.utf8ByteSize ≤ pos then return .ended ()
  match ← skipComment source pos with
  | some next => return .again () next
  | none => throw (.refused (.trailingCode pos))

def expression (turns start : Nat) : Except Halt Nat := do
  let ((stop, terminated), turns) ← repeatTurns (valueTurn source) turns .start start
  if let some behind := terminated then
    let _ ← repeatTurns (trailingTurn source) turns () behind
  return stop

/-- Reads a source as one assignment. The turns are those of all loops over accesses, lexemes and
trailing comments together. -/
def parse (turns : Nat) : Except Halt Assignment := do
  let start ← skipWhile source isBlank 0
  if source.utf8ByteSize ≤ start then throw (.refused .empty)
  let (stop, turns) ← memberChain source turns start
  let pos ← skipWhile source isBlank stop
  let behind ← assignmentOperator source pos
  let fin ← expression source turns behind
  let scanned ← between source behind fin
  let value := dropEndWhile isBlank (skipBlanks scanned)
  if value = [] then throw (.refused (.emptyValue behind))
  let first := behind + (byteLength scanned - byteLength (skipBlanks scanned))
  return {
    target := String.ofList (← between source start stop)
    value := String.ofList value
    targetSpan := ⟨start, stop⟩
    valueSpan := ⟨first, first + byteLength value⟩ }

end Source

end PublicPath.Statement.Cursor
