import PublicPath.Yaml.Layout
import PublicPath.Yaml.Node

/-!
# Documents

A text holds at most one document that counts. Directives in front of it may name a version and
shorten tags.
-/

namespace PublicPath.Yaml

/-- One document with what its aliases stand for. -/
structure Document where
  /-- None for a text without any document. -/
  root : Option Node
  /-- The anchored nodes by the numbers of their anchors. -/
  anchored : List (Nat × Node)

/-- Tag handles that need no directive. -/
def defaultHandles : List (String × String) :=
  [("!", "!"), ("!!", "tag:yaml.org,2002:")]

namespace Composer

def start (tokens : List Token) : Composer := ⟨tokens, [], [], [], []⟩

/-- The directives of a document. -/
def directives (versioned : Bool) : Nat → Composing Unit
  | 0 => pure ()
  | fuel + 1 => do
    let token ← peek
    match token.kind with
    | .version major minor =>
      if versioned then refuse "found duplicate %YAML directive" token.mark none
      if major ≠ 1 ∨ (minor ≠ 1 ∧ minor ≠ 2) then
        refuse "found incompatible YAML document" token.mark none
      drop
      directives true fuel
    | .handle name expansion =>
      if ((← get).handles.lookup name).isSome then
        refuse "found duplicate %TAG directive" token.mark none
      drop
      modify fun c => { c with handles := (name, expansion) :: c.handles }
      directives versioned fuel
    | _ => modify fun c => { c with handles := c.handles ++ defaultHandles }

/-- The first document of a text, the mark of its end included. -/
def document (fuel : Nat) : Composing (Option Node) := do
  let first ← peek
  match first.kind with
  | .streamEnd => return none
  | .version .. | .handle .. | .documentStart =>
    directives false fuel
    let token ← peek
    unless token.kind = .documentStart do
      refuse "did not find expected <document start>" token.mark none
    drop
    let next ← peek
    match next.kind with
    | .version .. | .handle .. | .documentStart | .documentEnd | .streamEnd =>
      return some (.blank next.mark)
    | _ => return some (← node true false fuel)
  | _ =>
    directives false fuel
    return some (← node true false fuel)

/-- Whether nothing stands behind a document but marks of its end. -/
def isLast (tokens : List Token) : Bool :=
  match tokens.dropWhile (·.kind = .documentEnd) with
  | ⟨.streamEnd, _⟩ :: _ | [] => true
  | _ => false

end Composer

/-- The anchored nodes by number; of several with one number the last one counts. -/
def Composer.byNumber (c : Composer) : List (Nat × Node) :=
  c.numbers.reverse.zipIdx.reverse.filterMap fun (number, place) =>
    (c.anchored.lookup place).map (number, ·)

/-- The message of a text with more than one document. -/
def severalDocuments : String :=
  "deserializing from YAML containing more than one document is not supported"

/-- The first character that no text may hold, with its place in bytes. -/
def firstForbidden (offset : Nat) : List Char → Option Nat
  | [] => none
  | c :: cs => if isAllowed c then firstForbidden (offset + c.utf8Size) cs else some offset

/-- Reads a text as a document. The value of the document is needed to tell which of two faults
comes first, so the check for a second document is returned along with it. -/
def Document.parse (cs : List Char) : Except String (Document × Bool) :=
  match firstForbidden 0 cs with
  | some 0 => .error "control characters are not allowed"
  | some offset => .error s!"control characters are not allowed at position {offset}"
  | none =>
    let tokens := (tokenize cs).toList
    let reading : Composing (Option Node) := do
      let root ← Composer.document (2 * tokens.length + 2)
      if root.isSome then let _ ← Composer.peek
      return root
    match reading.run (.start tokens) with
    | .error fault => .error fault.message
    | .ok (root, c) => .ok (⟨root, c.byNumber⟩, Composer.isLast c.tokens)

end PublicPath.Yaml
