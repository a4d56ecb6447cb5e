import PublicPath.Yaml.Block
import PublicPath.Yaml.Folding
import PublicPath.Yaml.Property
import PublicPath.Yaml.Token

/-!
# From a text to its tokens

Indentation opens and closes collections. A key needs no mark of its own: whether a token is one is
known only at the colon behind it, which must stand on the same line and within 1024 characters. The
key token is then put in front of it, and with it the start of its mapping.
-/

namespace PublicPath.Yaml

/-- A place where a key without a mark may have begun. -/
structure KeyPlace where
  /-- The number of the key's first token. -/
  token : Nat
  index : Nat
  mark : Mark
  /-- Whether nothing else can stand here. -/
  required : Bool

/-- The text read so far. -/
structure Layout where
  cursor : Cursor
  tokens : Array Token
  /-- The column of the innermost block collection, or minus one. -/
  indent : Int
  outerIndents : List Int
  /-- Whether a key may begin here. -/
  keyAllowed : Bool
  key : Option KeyPlace
  /-- The places of the collections around, one for each open flow collection. -/
  outerKeys : List (Option KeyPlace)

namespace Layout

def start (cs : List Char) : Layout := ⟨.start cs, #[], -1, [], true, none, []⟩

def inFlow (l : Layout) : Bool := !l.outerKeys.isEmpty

def push (l : Layout) (kind : TokenKind) (mark : Mark) : Layout :=
  { l with tokens := l.tokens.push ⟨kind, mark⟩ }

def insert (l : Layout) (place : Nat) (kind : TokenKind) (mark : Mark) : Layout :=
  { l with tokens := l.tokens.take place ++ #[⟨kind, mark⟩] ++ l.tokens.drop place }

/-- A token of so many characters. -/
def pushMarks (l : Layout) (kind : TokenKind) (width : Nat) : Layout :=
  { l.push kind l.cursor.mark with cursor := l.cursor.skip width }

/-! ## Indentation -/

/-- Opens a block collection at a column to the right of the innermost one. -/
def indentTo (l : Layout) (column : Nat) (place : Nat) (kind : TokenKind) (mark : Mark) : Layout :=
  if l.inFlow || column ≤ l.indent then l
  else
    { l.insert place kind mark with
      indent := column
      outerIndents := l.indent :: l.outerIndents }

def closeBlocks (column : Int) : List Int → Layout → Layout
  | [], l => l
  | outer :: more, l =>
    if column < l.indent then
      closeBlocks column more
        { l.push .blockEnd l.cursor.mark with indent := outer, outerIndents := more }
    else l

/-- Closes the block collections to the right of a column. -/
def unindentTo (l : Layout) (column : Int) : Layout :=
  if l.inFlow then l else closeBlocks column l.outerIndents l

/-! ## Keys -/

def missingColon (l : Layout) (key : KeyPlace) : Fault :=
  l.cursor.faultIn "could not find expected ':'" "while scanning a simple key" key.mark

/-- Gives up the place of a key. -/
def dropKey (l : Layout) : Except Fault Layout :=
  match l.key with
  | some key => if key.required then .error (l.missingColon key) else .ok { l with key := none }
  | none => .ok l

/-- Notes that a key may begin here. -/
def noteKey (l : Layout) : Except Fault Layout :=
  if !l.keyAllowed then .ok l
  else match l.dropKey with
    | .error e => .error e
    | .ok l =>
      let required := !l.inFlow && l.indent == l.cursor.column
      .ok { l with key := some ⟨l.tokens.size, l.cursor.index, l.cursor.mark, required⟩ }

def isStale (l : Layout) (key : KeyPlace) : Bool :=
  key.mark.line < l.cursor.mark.line || key.index + 1024 < l.cursor.index

/-- Gives up the places of keys that are on an earlier line or too far back. -/
def dropStaleKeys (l : Layout) : Except Fault Layout :=
  let keep (key : Option KeyPlace) := key.filter fun k => !l.isStale k
  match (l.key :: l.outerKeys).findSome? fun key => key.filter fun k => l.isStale k && k.required with
  | some key => .error (l.missingColon key)
  | none => .ok { l with key := keep l.key, outerKeys := l.outerKeys.map keep }

/-! ## Tokens -/

/-- Goes on to the next token, over blanks, comments and line ends. A byte order mark may stand first
in a line and takes a column. Where a key may begin in a block collection, a tab is no blank. -/
def skipToToken : Nat → Layout → Layout
  | 0, l => l
  | fuel + 1, l =>
    let c := l.cursor
    let c := if c.column = 0 ∧ c.head? = some '\ufeff' then c.skip 1 else c
    let c := c.skipWhile fun x => x == ' ' || ((l.inFlow || !l.keyAllowed) && x == '\t')
    let c := if c.head? = some '#' then c.skipWhile (fun x => !isBreak x) else c
    if c.atBreak then
      skipToToken fuel { l with cursor := c.readBreak.2, keyAllowed := l.keyAllowed || !l.inFlow }
    else { l with cursor := c }

/-- Ends all block collections and key places, in front of a directive or the like. -/
def closeAll (l : Layout) : Except Fault Layout :=
  match (l.unindentTo (-1)).dropKey with
  | .error e => .error e
  | .ok l => .ok { l with keyAllowed := false }

def openFlow (l : Layout) (kind : TokenKind) : Except Fault Layout :=
  match l.noteKey with
  | .error e => .error e
  | .ok l =>
    .ok { l.pushMarks kind 1 with
      key := none
      outerKeys := l.key :: l.outerKeys
      keyAllowed := true }

def closeFlow (l : Layout) (kind : TokenKind) : Except Fault Layout :=
  match l.dropKey with
  | .error e => .error e
  | .ok l =>
    let l := match l.outerKeys with
      | key :: outer => { l with key := key, outerKeys := outer }
      | [] => l
    .ok { l.pushMarks kind 1 with keyAllowed := false }

/-- A comma, a dash or the like, behind which a key may begin or not. -/
def mark (l : Layout) (kind : TokenKind) (keyAllowed : Bool) : Except Fault Layout :=
  match l.dropKey with
  | .error e => .error e
  | .ok l => .ok { l.pushMarks kind 1 with keyAllowed := keyAllowed }

/-- Opens the block collection of an entry or a key that is marked. -/
def openBlock (l : Layout) (kind : TokenKind) (problem : String) : Except Fault Layout :=
  if l.inFlow then .ok l
  else if !l.keyAllowed then .error (l.cursor.fault problem)
  else .ok (l.indentTo l.cursor.column l.tokens.size kind l.cursor.mark)

def entry (l : Layout) : Except Fault Layout :=
  match l.openBlock .blockSequence "block sequence entries are not allowed in this context" with
  | .error e => .error e
  | .ok l => l.mark .entry true

def markedKey (l : Layout) : Except Fault Layout :=
  match l.openBlock .blockMapping "mapping keys are not allowed in this context" with
  | .error e => .error e
  | .ok l => l.mark .key (!l.inFlow)

/-- A colon makes the noted place a key, or else stands for an empty one. -/
def value (l : Layout) : Except Fault Layout :=
  match l.key with
  | some key =>
    let l := l.insert key.token .key key.mark
    let l := l.indentTo key.mark.column key.token .blockMapping key.mark
    .ok { l.pushMarks .value 1 with key := none, keyAllowed := false }
  | none =>
    match l.openBlock .blockMapping "mapping values are not allowed in this context" with
    | .error e => .error e
    | .ok l => .ok { l.pushMarks .value 1 with keyAllowed := !l.inFlow }

/-- A token that may be the first of a key. -/
def content (l : Layout) (read : Cursor → Except Fault (TokenKind × Cursor)) :
    Except Fault Layout :=
  match l.noteKey with
  | .error e => .error e
  | .ok l =>
    match read l.cursor with
    | .error e => .error e
    | .ok (kind, c) => .ok { l.push kind l.cursor.mark with cursor := c, keyAllowed := false }

def scalarToken (plain : Bool) (r : Except Fault (List Char × Cursor)) :
    Except Fault (TokenKind × Cursor) :=
  r.map fun (text, c) => (.scalar (String.ofList text) plain, c)

def blockScalar (l : Layout) (literal : Bool) : Except Fault Layout :=
  match l.dropKey with
  | .error e => .error e
  | .ok l =>
    match scalarToken false (readBlock literal l.indent l.cursor) with
    | .error e => .error e
    | .ok (kind, c) => .ok { l.push kind l.cursor.mark with cursor := c, keyAllowed := true }

/-- A plain scalar; behind a line end a key may begin. -/
def plainScalar (l : Layout) : Except Fault Layout :=
  match l.noteKey with
  | .error e => .error e
  | .ok l =>
    match readPlain l.inFlow l.indent l.cursor with
    | .error e => .error e
    | .ok (text, broken, c) =>
      .ok { l.push (.scalar (String.ofList text) true) l.cursor.mark with
        cursor := c
        keyAllowed := broken }

/-- Whether a plain scalar may begin with `x`, in front of `next`. -/
def startsPlain (inFlow : Bool) (x : Char) (next : Option Char) : Bool :=
  if x = '-' then !(next.any isSpaceOrTab)
  else if x = '?' ∨ x = ':' then !inFlow && !isGap next
  else !isGap (some x) && !("-?:,[]#&*!|>'\"%@\x7b\x7d\x60".toList.contains x)

/-- Reads the token at the cursor; none at the end of the text. -/
def next (l : Layout) : Except Fault (Option Layout) :=
  let c := l.cursor
  match c.rest with
  | [] =>
    let line := if c.column = 0 then c.mark.line else c.mark.line + 1
    match ({ l with cursor := { c with mark := ⟨line, 0⟩ } } : Layout).closeAll with
    | .error e => .error e
    | .ok _ => .ok none
  | x :: _ =>
    let gap := isGap (c.ahead 1)
    let document (kind : TokenKind) :=
      match l.closeAll with
      | .error e => .error e
      | .ok l => .ok (l.pushMarks kind 3)
    let result : Except Fault Layout :=
      if x = '%' ∧ c.column = 0 then
        match l.closeAll with
        | .error e => .error e
        | .ok l =>
          (readDirective l.cursor).map fun (kind, c) => { l.push kind l.cursor.mark with cursor := c }
      else if c.atDocumentMark '-' then document .documentStart
      else if c.atDocumentMark '.' then document .documentEnd
      else if x = '[' then l.openFlow .flowSequence
      else if x = '\x7b' then l.openFlow .flowMapping
      else if x = ']' then l.closeFlow .flowSequenceEnd
      else if x = '\x7d' then l.closeFlow .flowMappingEnd
      else if x = ',' then l.mark .comma true
      else if x = '-' ∧ gap then l.entry
      else if x = '?' ∧ (l.inFlow ∨ gap) then l.markedKey
      else if x = ':' ∧ (l.inFlow ∨ gap) then l.value
      else if x = '*' then
        l.content fun c => (readName "while scanning an alias" c).map fun (name, c) => (.reference name, c)
      else if x = '&' then
        l.content fun c =>
          (readName "while scanning an anchor" c).map fun (name, c) => (.anchor name, c)
      else if x = '!' then l.content (readTag l.inFlow)
      else if x = '|' ∧ !l.inFlow then l.blockScalar true
      else if x = '>' ∧ !l.inFlow then l.blockScalar false
      else if x = '\'' ∨ x = '"' then l.content fun c => scalarToken false (readQuoted x c)
      else if startsPlain l.inFlow x (c.ahead 1) then l.plainScalar
      else .error (c.faultIn "found character that cannot start any token"
        "while scanning for the next token" c.mark)
    result.map some

/-- The end of the text closes what is open. -/
def finish (l : Layout) : Array Token :=
  let c := l.cursor
  let line := if c.column = 0 then c.mark.line else c.mark.line + 1
  let l : Layout := { l with cursor := { c with mark := ⟨line, 0⟩ } }
  ((l.unindentTo (-1)).push .streamEnd ⟨line, 0⟩).tokens

/-- All tokens of a text. -/
def run : Nat → Layout → Array Token
  | 0, l => l.finish
  | fuel + 1, l =>
    let l := l.skipToToken (l.cursor.rest.length + 1)
    let stop (e : Fault) := (l.push (.broken e) l.cursor.mark).tokens
    match l.dropStaleKeys with
    | .error e => stop e
    | .ok l =>
      let l := l.unindentTo l.cursor.column
      match l.next with
      | .error e => (l.push (.broken e) l.cursor.mark).tokens
      | .ok none => l.finish
      | .ok (some l) => run fuel l

end Layout

/-- The tokens of a text. The last one ends the stream or names a fault. -/
def tokenize (cs : List Char) : Array Token :=
  (Layout.start cs).run (cs.length + 1)

end PublicPath.Yaml
