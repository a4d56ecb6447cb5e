import PublicPath.Yaml.Folding
import PublicPath.Yaml.Token

/-!
# Anchors, tags and directives

What may stand in front of a node or of a document.
-/

namespace PublicPath.Yaml

/-! ## Anchors and aliases -/

/-- Whether a name may end before this character. -/
def endsName (c : Option Char) : Bool :=
  isGap c || c.any fun x => "?:,]%@\x7d\x60".toList.contains x

/-- The name of an anchor or an alias, from its mark. -/
def readName (context : String) (c : Cursor) : Except Fault (String × Cursor) :=
  let begun := c.mark
  let name := (c.skip 1).rest.takeWhile isWordChar
  let c := c.skip (1 + name.length)
  if name = [] || !endsName c.head? then
    .error (c.faultIn "did not find expected alphabetic or numeric character" context begun)
  else .ok (String.ofList name, c)

/-! ## Tags -/

/-- The characters of a tag; within angle brackets there are some more. -/
def isTagChar (verbatim : Bool) (c : Char) : Bool :=
  isWordChar c || ";/?:@&=+$.!~*'()%".toList.contains c ||
    (verbatim && (c == ',' || c == '[' || c == ']'))

/-- How many bytes a character has that starts with this byte. -/
def byteCount (n : Nat) : Nat :=
  if n < 0x80 then 1
  else if n / 0x20 = 6 then 2
  else if n / 0x10 = 14 then 3
  else if n / 0x08 = 30 then 4
  else 0

/-- The escaped bytes of one character; `pending` more of them belong to it. -/
def readTagEscape (context : String) (begun : Mark) :
    Nat → Cursor → Except Fault (List Char × Cursor)
  | 0, c => .ok ([], c)
  | pending + 1, c =>
    match c.rest with
    | '%' :: a :: b :: _ =>
      if isHexDigit a && isHexDigit b then
        let n := hexNumber [a, b]
        if n / 0x40 ≠ 2 then
          .error (c.faultIn "found an incorrect trailing UTF-8 octet" context begun)
        else match readTagEscape context begun pending (c.skip 3) with
          | .error e => .error e
          | .ok (more, c) => .ok (Char.ofNat n :: more, c)
      else .error (c.faultIn "did not find URI escaped octet" context begun)
    | _ => .error (c.faultIn "did not find URI escaped octet" context begun)

def readTagEscapes (context : String) (begun : Mark) (c : Cursor) :
    Except Fault (List Char × Cursor) :=
  match c.rest with
  | '%' :: a :: b :: _ =>
    if isHexDigit a && isHexDigit b then
      let n := hexNumber [a, b]
      if byteCount n = 0 then
        .error (c.faultIn "found an incorrect leading UTF-8 octet" context begun)
      else match readTagEscape context begun (byteCount n - 1) (c.skip 3) with
        | .error e => .error e
        | .ok (more, c) => .ok (Char.ofNat n :: more, c)
    else .error (c.faultIn "did not find URI escaped octet" context begun)
  | _ => .error (c.faultIn "did not find URI escaped octet" context begun)

/-- The characters of a tag, escapes resolved. -/
def readTagText (verbatim : Bool) (context : String) (begun : Mark) :
    Nat → Cursor → Except Fault (List Char × Cursor)
  | 0, c => .ok ([], c)
  | fuel + 1, c =>
    match c.rest with
    | [] => .ok ([], c)
    | x :: _ =>
      if !isTagChar verbatim x then .ok ([], c)
      else
        let taken := if x = '%' then readTagEscapes context begun c else .ok ([x], c.skip 1)
        match taken with
        | .error e => .error e
        | .ok (front, c) =>
          match readTagText verbatim context begun fuel c with
          | .error e => .error e
          | .ok (more, c) => .ok (front ++ more, c)

/-- A nonempty text of a tag. -/
def readTagText1 (verbatim : Bool) (context : String) (begun : Mark) (c : Cursor) :
    Except Fault (List Char × Cursor) :=
  if c.head?.any (isTagChar verbatim) then readTagText verbatim context begun c.rest.length c
  else .error (c.faultIn "did not find expected tag URI" context begun)

/-- An exclamation mark and the word behind it, with the mark that ends a handle if there is one. -/
def readHandle (c : Cursor) : List Char × Cursor :=
  let name := (c.skip 1).rest.takeWhile isWordChar
  let c := c.skip (1 + name.length)
  if c.head? = some '!' then ('!' :: (name ++ ['!']), c.skip 1) else ('!' :: name, c)

/-- A tag, from its exclamation mark. -/
def readTag (inFlow : Bool) (c : Cursor) : Except Fault (TokenKind × Cursor) :=
  let begun := c.mark
  let context := "while scanning a tag"
  let close (handle suffix : List Char) (c : Cursor) : Except Fault (TokenKind × Cursor) :=
    if (inFlow && c.head? = some ',') || isGap c.head? then
      .ok (.tag (String.ofList handle) (String.ofList suffix), c)
    else .error (c.faultIn "did not find expected whitespace or line break" context begun)
  let uriContext := "while parsing a tag"
  if c.ahead 1 = some '<' then
    match readTagText1 true uriContext begun (c.skip 2) with
    | .error e => .error e
    | .ok (uri, c) =>
      if c.head? = some '>' then close [] uri (c.skip 1)
      else .error (c.faultIn "did not find the expected '>'" context begun)
  else
    let (handle, c) := readHandle c
    if handle ≠ ['!'] ∧ handle.getLast? = some '!' then
      match readTagText1 false uriContext begun c with
      | .error e => .error e
      | .ok (suffix, c) => close handle suffix c
    else
      match readTagText false uriContext begun c.rest.length c with
      | .error e => .error e
      | .ok (more, c) =>
        match handle.drop 1 ++ more with
        | [] => close [] ['!'] c
        | suffix => close ['!'] suffix c

/-! ## Directives -/

def directiveContext : String := "while scanning a directive"

/-- A number of at most nine digits. -/
def readVersionNumber (begun : Mark) (c : Cursor) : Except Fault (Nat × Cursor) :=
  let context := "while scanning a %YAML directive"
  let digits := c.rest.takeWhile Char.isDigit
  if 9 < digits.length then
    .error ((c.skip 9).faultIn "found extremely long version number" context begun)
  else if digits = [] then
    .error (c.faultIn "did not find expected version number" context begun)
  else .ok (digits.foldl (fun n d => 10 * n + (d.toNat - '0'.toNat)) 0, c.skip digits.length)

def readVersion (begun : Mark) (c : Cursor) : Except Fault (TokenKind × Cursor) :=
  match readVersionNumber begun (c.skipWhile isSpaceOrTab) with
  | .error e => .error e
  | .ok (major, c) =>
    if c.head? ≠ some '.' then
      .error (c.faultIn "did not find expected digit or '.' character"
        "while scanning a %YAML directive" begun)
    else match readVersionNumber begun (c.skip 1) with
      | .error e => .error e
      | .ok (minor, c) => .ok (.version major minor, c)

def readHandleDirective (begun : Mark) (c : Cursor) : Except Fault (TokenKind × Cursor) :=
  let c := c.skipWhile isSpaceOrTab
  if c.head? ≠ some '!' then
    .error (c.faultIn "did not find expected '!'" "while scanning a tag directive" begun)
  else
    let (handle, c) := readHandle c
    if handle ≠ ['!'] ∧ handle.getLast? ≠ some '!' then
      .error (c.faultIn "did not find expected '!'" "while parsing a tag directive" begun)
    else if !c.atSpaceOrTab then
      .error (c.faultIn "did not find expected whitespace" "while scanning a %TAG directive" begun)
    else match readTagText1 true "while parsing a %TAG directive" begun
        (c.skipWhile isSpaceOrTab) with
      | .error e => .error e
      | .ok (expansion, c) =>
        if isGap c.head? then .ok (.handle (String.ofList handle) (String.ofList expansion), c)
        else .error (c.faultIn "did not find expected whitespace or line break"
          "while scanning a %TAG directive" begun)

/-- A directive with the rest of its line. -/
def readDirective (c : Cursor) : Except Fault (TokenKind × Cursor) :=
  let begun := c.mark
  let c := c.skip 1
  let name := c.rest.takeWhile isWordChar
  let c := c.skip name.length
  if name = [] then
    .error (c.faultIn "could not find expected directive name" directiveContext begun)
  else if !isGap c.head? then
    .error (c.faultIn "found unexpected non-alphabetical character" directiveContext begun)
  else
    let directive :=
      if name = "YAML".toList then readVersion begun c
      else if name = "TAG".toList then readHandleDirective begun c
      else .error (c.faultIn "found unknown directive name" directiveContext begun)
    match directive with
    | .error e => .error e
    | .ok (kind, c) =>
      let c := c.skipWhile isSpaceOrTab
      let c := if c.head? = some '#' then c.skipWhile (fun x => !isBreak x) else c
      if c.rest ≠ [] ∧ !c.atBreak then
        .error (c.faultIn "did not find expected comment or line break" directiveContext begun)
      else .ok (kind, c.readBreak.2)

end PublicPath.Yaml
