import PublicPath.Yaml.Token

/-!
# From tokens to nodes

A document is a node: a scalar, a sequence, a mapping, or an alias for an anchored node. Each
function takes the tokens that a collection may consist of, one after the other; an empty scalar
stands where a node is left out.
-/

namespace PublicPath.Yaml

inductive Node where
  | scalar (tag : Option String) (plain : Bool) (text : String) (mark : Mark)
  | reference (anchor : Nat) (mark : Mark)
  | sequence (tag : Option String) (items : List Node) (mark : Mark)
  | mapping (tag : Option String) (members : List (Node × Node)) (mark : Mark)

namespace Node

def mark : Node → Mark
  | scalar _ _ _ mark | reference _ mark | sequence _ _ mark | mapping _ _ mark => mark

/-- Where nothing is written. -/
def blank (mark : Mark) : Node := scalar none true "" mark

end Node

/-- What was read of a document. -/
structure Composer where
  tokens : List Token
  /-- The anchors by name, with the numbers that stand for them. -/
  anchors : List (String × Nat)
  /-- The number of each anchored node in the order of the text, the last one first. -/
  numbers : List Nat
  /-- The anchored nodes by their place in that order. -/
  anchored : List (Nat × Node)
  /-- Tag handles and what they stand for. -/
  handles : List (String × String)

abbrev Composing := StateT Composer (Except Fault)

namespace Composer

/-- The next token. A fault of the text arises when it is reached. -/
def peek : Composing Token := do
  match (← get).tokens with
  | ⟨.broken fault, _⟩ :: _ => throw fault
  | token :: _ => return token
  | [] => return ⟨.streamEnd, ⟨0, 0⟩⟩

def drop : Composing Unit := modify fun c => { c with tokens := c.tokens.drop 1 }

def refuse {α : Type} (problem : String) (mark : Mark) (context : Option (String × Mark)) :
    Composing α :=
  throw ⟨problem, mark, context⟩

/-- Gives an anchor its number, which is how many names stand for others by then, and its node a
place in the order of anchored nodes. -/
def nameAnchor (name : String) : Composing Nat := do
  let c ← get
  let number := c.anchors.length
  set { c with
    anchors := (name, number) :: c.anchors.filter (·.1 ≠ name)
    numbers := number :: c.numbers }
  return c.numbers.length

def keepAnchored (place : Option Nat) (node : Node) : Composing Node := do
  match place with
  | some n => modify fun c => { c with anchored := (n, node) :: c.anchored }
  | none => pure ()
  return node

/-- What stands in front of a node. -/
structure Properties where
  anchor : Option String
  tag : Option (String × String × Mark)

/-- An anchor and a tag, in either order, at most one of each. -/
def properties : Composing Properties := do
  let first ← peek
  match first.kind with
  | .anchor name =>
    drop
    let second ← peek
    match second.kind with
    | .tag handle suffix => drop; return ⟨some name, some (handle, suffix, second.mark)⟩
    | _ => return ⟨some name, none⟩
  | .tag handle suffix =>
    drop
    let second ← peek
    match second.kind with
    | .anchor name => drop; return ⟨some name, some (handle, suffix, first.mark)⟩
    | _ => return ⟨none, some (handle, suffix, first.mark)⟩
  | _ => return ⟨none, none⟩

/-- A tag with its handle resolved. -/
def resolveTag (begun : Mark) : Option (String × String × Mark) → Composing (Option String)
  | none => return none
  | some (handle, suffix, mark) => do
    if handle = "" then return some suffix
    match (← get).handles.lookup handle with
    | some expansion => return some (expansion ++ suffix)
    | none => refuse "found undefined tag handle" mark (some ("while parsing a node", begun))

mutual

/-- A node; `block` allows block collections, `dashes` a sequence that is not indented further. -/
def node (block dashes : Bool) : Nat → Composing Node
  | 0 => do refuse "did not find expected node content" (← peek).mark none
  | fuel + 1 => do
    let first ← peek
    match first.kind with
    | .reference name =>
      match (← get).anchors.lookup name with
      | some number => drop; return .reference number first.mark
      | none => refuse "unknown anchor" first.mark none
    | _ =>
      let begun := first.mark
      let props ← properties
      let tag ← resolveTag begun props.tag
      let token ← peek
      let named := props.anchor.isSome || tag.isSome
      let context := if block then "while parsing a block node" else "while parsing a flow node"
      let missing : Composing Node :=
        refuse "did not find expected node content" token.mark (some (context, begun))
      let wasNamed (c : Composing Node) : Composing Node := do
        let place ← props.anchor.mapM nameAnchor
        keepAnchored place (← c)
      match token.kind with
      | .entry =>
        if dashes then
          wasNamed do return .sequence tag (← dashedItems fuel) begun
        else if named then wasNamed do return .scalar tag true "" begun
        else missing
      | .scalar text plain =>
        drop
        wasNamed do return .scalar (if tag = some "!" then none else tag) plain text begun
      | .flowSequence =>
        drop
        wasNamed do return .sequence tag (← flowItems token.mark true fuel) begun
      | .flowMapping =>
        drop
        wasNamed do return .mapping tag (← flowMembers token.mark true fuel) begun
      | kind =>
        if block && kind = .blockSequence then
          drop
          wasNamed do return .sequence tag (← blockItems token.mark fuel) begun
        else if block && kind = .blockMapping then
          drop
          wasNamed do return .mapping tag (← blockMembers token.mark fuel) begun
        else if named then wasNamed do return .scalar tag true "" begun
        else missing

/-- The items of an indented sequence. -/
def blockItems (begun : Mark) : Nat → Composing (List Node)
  | 0 => return []
  | fuel + 1 => do
    let token ← peek
    match token.kind with
    | .entry =>
      drop
      let next ← peek
      let item ← match next.kind with
        | .entry | .blockEnd => pure (Node.blank next.mark)
        | _ => node true false fuel
      return item :: (← blockItems begun fuel)
    | .blockEnd => drop; return []
    | _ =>
      refuse "did not find expected '-' indicator" token.mark
        (some ("while parsing a block collection", begun))

/-- The items of a sequence that stands as far to the left as the mapping around it. -/
def dashedItems : Nat → Composing (List Node)
  | 0 => return []
  | fuel + 1 => do
    match (← peek).kind with
    | .entry =>
      drop
      let next ← peek
      let item ← match next.kind with
        | .entry | .key | .value | .blockEnd => pure (Node.blank next.mark)
        | _ => node true false fuel
      return item :: (← dashedItems fuel)
    | _ => return []

/-- A part of a member, unless it is left out. -/
def blockPart : Nat → Composing Node
  | 0 => return .blank ⟨0, 0⟩
  | fuel + 1 => do
    let next ← peek
    match next.kind with
    | .key | .value | .blockEnd => return .blank next.mark
    | _ => node true true fuel

def blockMembers (begun : Mark) : Nat → Composing (List (Node × Node))
  | 0 => return []
  | fuel + 1 => do
    let token ← peek
    let valuePart : Composing Node := do
      let next ← peek
      match next.kind with
      | .value => drop; blockPart fuel
      | _ => return .blank next.mark
    match token.kind with
    | .key =>
      drop
      let key ← blockPart fuel
      let value ← valuePart
      return (key, value) :: (← blockMembers begun fuel)
    | .blockEnd => drop; return []
    | _ =>
      refuse "did not find expected key" token.mark (some ("while parsing a block mapping", begun))

/-- The items of a sequence in brackets. A key among them makes a mapping of one member. -/
def flowItems (begun : Mark) (first : Bool) : Nat → Composing (List Node)
  | 0 => return []
  | fuel + 1 => do
    let token ← peek
    match token.kind with
    | .flowSequenceEnd => drop; return []
    | _ =>
      unless first do
        match token.kind with
        | .comma => drop
        | _ =>
          refuse "did not find expected ',' or ']'" token.mark
            (some ("while parsing a flow sequence", begun))
      let token ← peek
      match token.kind with
      | .flowSequenceEnd => drop; return []
      | .key =>
        drop
        let member ← flowPair fuel
        return .mapping none [member] token.mark :: (← flowItems begun false fuel)
      | _ =>
        let item ← node false false fuel
        return item :: (← flowItems begun false fuel)

/-- The member of a mapping that stands among the items of a sequence. -/
def flowPair : Nat → Composing (Node × Node)
  | 0 => return (.blank ⟨0, 0⟩, .blank ⟨0, 0⟩)
  | fuel + 1 => do
    let next ← peek
    let key ← match next.kind with
      | .value | .comma | .flowSequenceEnd => drop; pure (Node.blank next.mark)
      | _ => node false false fuel
    let next ← peek
    match next.kind with
    | .value =>
      drop
      let next ← peek
      match next.kind with
      | .comma | .flowSequenceEnd => return (key, .blank next.mark)
      | _ => return (key, ← node false false fuel)
    | _ => return (key, .blank next.mark)

def flowMembers (begun : Mark) (first : Bool) : Nat → Composing (List (Node × Node))
  | 0 => return []
  | fuel + 1 => do
    let token ← peek
    let part : Composing Node := do
      let next ← peek
      match next.kind with
      | .value | .comma | .flowMappingEnd => return .blank next.mark
      | _ => node false false fuel
    match token.kind with
    | .flowMappingEnd => drop; return []
    | _ =>
      unless first do
        match token.kind with
        | .comma => drop
        | _ =>
          refuse "did not find expected ',' or '\x7d'" token.mark
            (some ("while parsing a flow mapping", begun))
      let token ← peek
      match token.kind with
      | .flowMappingEnd => drop; return []
      | .key =>
        drop
        let key ← part
        let next ← peek
        let value ← match next.kind with
          | .value => do drop; flowPart fuel
          | _ => pure (Node.blank next.mark)
        return (key, value) :: (← flowMembers begun false fuel)
      | _ =>
        let key ← node false false fuel
        return (key, .blank token.mark) :: (← flowMembers begun false fuel)

/-- The value of a member in braces, unless it is left out. -/
def flowPart : Nat → Composing Node
  | 0 => return .blank ⟨0, 0⟩
  | fuel + 1 => do
    let next ← peek
    match next.kind with
    | .comma | .flowMappingEnd => return .blank next.mark
    | _ => node false false fuel

end

end Composer

end PublicPath.Yaml
