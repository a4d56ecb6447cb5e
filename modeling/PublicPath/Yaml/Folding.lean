import PublicPath.Yaml.Cursor

/-!
# Scalars on one or several lines

A scalar may go on over lines. A single line break between two words stands for a space, further
ones for themselves, and blanks around line breaks for nothing.
-/

namespace PublicPath.Yaml

/-- What stands between two words of a scalar. -/
structure Gap where
  /-- The blanks, as long as no line ends. -/
  blanks : List Char
  /-- The first line break. -/
  first : List Char
  /-- The other line breaks. -/
  more : List Char
  /-- Whether a line has ended. -/
  broken : Bool

namespace Gap

def empty : Gap := ⟨[], [], [], false⟩

/-- The text that a gap stands for. -/
def text (g : Gap) : List Char :=
  if g.broken then
    if g.first = ['\n'] then if g.more = [] then [' '] else g.more
    else g.first ++ g.more
  else g.blanks

/-- Reads a gap. Behind a line break a tab must stand at the column `indent` or further. -/
def read (indent : Nat) : Nat → Gap → Cursor → Except Cursor (Gap × Cursor)
  | 0, g, c => .ok (g, c)
  | fuel + 1, g, c =>
    match c.rest with
    | x :: _ =>
      if isSpaceOrTab x then
        if g.broken ∧ c.column < indent ∧ x = '\t' then .error c
        else if g.broken then read indent fuel g (c.skip 1)
        else read indent fuel { g with blanks := g.blanks ++ [x] } (c.skip 1)
      else if isBreak x then
        let (line, next) := c.readBreak
        if g.broken then read indent fuel { g with more := g.more ++ line } next
        else read indent fuel ⟨[], line, [], true⟩ next
      else .ok (g, c)
    | [] => .ok (g, c)

end Gap

/-! ## Plain scalars -/

/-- The characters that end a word in a flow collection. -/
def isFlowIndicator (c : Char) : Bool :=
  c == ',' || c == '[' || c == ']' || c == '\x7b' || c == '\x7d'

/-- The length of the word at the front of a text, or the place of a colon that cannot stand in a
flow collection. -/
def plainWord (inFlow : Bool) : List Char → Except Nat Nat
  | [] => .ok 0
  | x :: rest =>
    if isGap (some x) then .ok 0
    else if inFlow && x == ':' && rest.head?.any (fun y => isFlowIndicator y || y == '?') then
      .error 0
    else if x == ':' && isGap rest.head? then .ok 0
    else if inFlow && isFlowIndicator x then .ok 0
    else match plainWord inFlow rest with
      | .ok n => .ok (n + 1)
      | .error n => .error (n + 1)

/-- The words of a plain scalar. A scalar of several lines ends before a line that stands no further
to the right than its collection. Returned with it is whether a line ended behind it. -/
def plainWords (inFlow : Bool) (indent : Nat) (begun : Mark) :
    Nat → Gap → Cursor → Except Fault (List Char × Bool × Cursor)
  | 0, g, c => .ok ([], g.broken, c)
  | fuel + 1, g, c =>
    let context := "while scanning a plain scalar"
    if c.atDocumentBoundary || c.head? == some '#' then .ok ([], g.broken, c)
    else match plainWord inFlow c.rest with
      | .error n => .error ((c.skip n).faultIn "found unexpected ':'" context begun)
      | .ok n =>
        let word := if n = 0 then [] else g.text ++ c.rest.take n
        let g := if n = 0 then g else .empty
        let c := c.skip n
        if c.atSpaceOrTab || c.atBreak then
          match Gap.read indent c.rest.length .empty c with
          | .error c =>
            .error (c.faultIn "found a tab character that violates indentation" context begun)
          | .ok (g, c) =>
            if !inFlow && c.column < indent then .ok (word, g.broken, c)
            else match plainWords inFlow indent begun fuel g c with
              | .error e => .error e
              | .ok (more, broken, c) => .ok (word ++ more, broken, c)
        else .ok (word, g.broken, c)

/-- A plain scalar inside a collection that is indented by `indent`. -/
def readPlain (inFlow : Bool) (indent : Int) (c : Cursor) :
    Except Fault (List Char × Bool × Cursor) :=
  plainWords inFlow (indent + 1).toNat c.mark (c.rest.length + 1) .empty c

/-! ## Quoted scalars -/

/-- What a letter behind a backslash stands for. -/
def letterEscape? (c : Char) : Option Char :=
  match c with
  | '0' => some '\x00'
  | 'a' => some '\x07'
  | 'b' => some '\x08'
  | 't' | '\t' => some '\t'
  | 'n' => some '\n'
  | 'v' => some '\x0b'
  | 'f' => some '\x0c'
  | 'r' => some '\r'
  | 'e' => some '\x1b'
  | ' ' => some ' '
  | '"' => some '"'
  | '/' => some '/'
  | '\\' => some '\\'
  | 'N' => some '\u0085'
  | '_' => some '\u00a0'
  | 'L' => some '\u2028'
  | 'P' => some '\u2029'
  | _ => none

/-- How many hexadecimal digits follow a letter behind a backslash. -/
def escapeWidth? (c : Char) : Option Nat :=
  match c with
  | 'x' => some 2
  | 'u' => some 4
  | 'U' => some 8
  | _ => none

def isHexDigit (c : Char) : Bool :=
  c.isDigit || ('a' ≤ c && c ≤ 'f') || ('A' ≤ c && c ≤ 'F')

def hexDigitValue (c : Char) : Nat :=
  if c.isDigit then c.toNat - '0'.toNat
  else if 'a' ≤ c then c.toNat - 'a'.toNat + 10
  else c.toNat - 'A'.toNat + 10

def hexNumber (digits : List Char) : Nat :=
  digits.foldl (fun n d => 16 * n + hexDigitValue d) 0

/-- The character of an escape, from its backslash. -/
def readEscape (begun : Mark) (c : Cursor) : Except Fault (Char × Cursor) :=
  let context := "while parsing a quoted scalar"
  let unknown := c.faultIn "found unknown escape character" context begun
  match c.ahead 1 with
  | none => .error unknown
  | some letter =>
    match letterEscape? letter, escapeWidth? letter with
    | some x, _ => .ok (x, c.skip 2)
    | none, some width =>
      let c := c.skip 2
      let digits := (c.rest.take width).takeWhile isHexDigit
      let n := hexNumber digits
      if digits.length < width then
        .error (c.faultIn "did not find expected hexdecimal number" context begun)
      else if (0xd800 ≤ n && n ≤ 0xdfff) || 0x10ffff < n then
        .error (c.faultIn "found invalid Unicode character escape code" context begun)
      else .ok (Char.ofNat n, c.skip width)
    | none, none => .error unknown

/-- A run of a quoted scalar up to a blank, a line break or the closing quote. A backslash at the end
of a line, in double quotes, joins the lines; the run then ends behind it, and the flag is set. -/
def quotedRun (quote : Char) (begun : Mark) :
    Nat → Cursor → Except Fault (List Char × Bool × Cursor)
  | 0, c => .ok ([], false, c)
  | fuel + 1, c =>
    match c.rest with
    | [] => .ok ([], false, c)
    | x :: rest =>
      let go (y : Char) (c : Cursor) :=
        match quotedRun quote begun fuel c with
        | .error e => .error e
        | .ok (more, joined, c) => .ok (y :: more, joined, c)
      if isGap (some x) then .ok ([], false, c)
      else if x = quote then
        if quote = '\'' ∧ rest.head? = some '\'' then go '\'' (c.skip 2) else .ok ([], false, c)
      else if quote = '"' ∧ x = '\\' then
        if (c.skip 1).atBreak then .ok ([], true, (c.skip 1).readBreak.2)
        else match readEscape begun c with
          | .error e => .error e
          | .ok (y, c) => go y c
      else go x (c.skip 1)

/-- The runs of a quoted scalar, from behind its opening quote through its closing one. -/
def quotedRuns (quote : Char) (begun : Mark) : Nat → Cursor → Except Fault (List Char × Cursor)
  | 0, c => .ok ([], c)
  | fuel + 1, c =>
    let context := "while scanning a quoted scalar"
    if c.atDocumentBoundary then
      .error (c.faultIn "found unexpected document indicator" context begun)
    else if c.rest = [] then
      .error (c.faultIn "found unexpected end of stream" context begun)
    else match quotedRun quote begun (c.rest.length + 1) c with
      | .error e => .error e
      | .ok (run, joined, c) =>
        if c.head? = some quote then .ok (run, c.skip 1)
        else match Gap.read 0 c.rest.length { Gap.empty with broken := joined } c with
          | .error c => .error (c.fault "found a misplaced tab character")
          | .ok (g, c) =>
            match quotedRuns quote begun fuel c with
            | .error e => .error e
            | .ok (more, c) => .ok (run ++ g.text ++ more, c)

/-- A quoted scalar from its opening quote. -/
def readQuoted (quote : Char) (c : Cursor) : Except Fault (List Char × Cursor) :=
  quotedRuns quote c.mark (c.rest.length + 1) (c.skip 1)

end PublicPath.Yaml
