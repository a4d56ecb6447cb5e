import PublicPath.Json.Basic
import PublicPath.Yaml.Document
import PublicPath.Yaml.Scalar

/-!
# Documents as generic values

Keys are scalars, whatever their tags; of several members with one key the last one counts. An alias
stands for its node. Collections nest at most 128 deep, and only so many aliases are followed.
-/

namespace PublicPath.Yaml

mutual

/-- How many parts a node has: scalars, aliases and the two ends of each collection. -/
def Node.parts : Node → Nat
  | .scalar .. | .reference .. => 1
  | .sequence _ items _ => 2 + partsOfItems items
  | .mapping _ members _ => 2 + partsOfMembers members

def partsOfItems : List Node → Nat
  | [] => 0
  | x :: xs => x.parts + partsOfItems xs

def partsOfMembers : List (Node × Node) → Nat
  | [] => 0
  | (k, v) :: rest => k.parts + v.parts + partsOfMembers rest

end

/-- Following aliases; the state counts those followed so far. -/
abbrev Valuing := StateT Nat (Except String)

/-- A problem at a node, whose place is left out at the very start of the text. -/
def problemAt {α : Type} (problem : String) (mark : Mark) : Valuing α :=
  throw (Fault.mk problem mark none).message

/-- The node that an alias stands for. -/
def follow (d : Document) (limit : Nat) (n : Node) : Valuing Node := do
  match n with
  | .reference anchor mark =>
    modify (· + 1)
    if limit < (← get) then throw "repetition limit exceeded"
    match d.anchored.lookup anchor with
    | some target => return target
    | none => problemAt "unknown anchor" mark
  | n => return n

/-- The text of a key. -/
def keyText (d : Document) (limit : Nat) (expected : String) (key : Node) : Valuing String := do
  match ← follow d limit key with
  | .scalar _ _ text _ => return text
  | .sequence _ _ mark => problemAt s!"invalid type: sequence, expected {expected}" mark
  | .mapping _ _ mark | .reference _ mark =>
    problemAt s!"invalid type: map, expected {expected}" mark

/-- Whether a tag is the document's own and so has no value. -/
def isOwnTag (tag : Option String) : Bool := tag.any fun t => t.toList.head? = some '!'

/-- The value of a node; `inner` gives the values of its parts, unless it is nested too deep. -/
def Node.valueWith (d : Document) (limit : Nat) (inner : Option (Node → Valuing Json))
    (n : Node) : Valuing Json := do
  let n ← follow d limit n
  let own := "invalid type: enum, expected any valid JSON value"
  match n with
  | .scalar tag plain text mark =>
    if isOwnTag tag then problemAt own mark
    else
      let value := match tag with
        | some tag => taggedValue tag text
        | none => if plain then plainValue text else .ok (.string text)
      match value with
      | .ok x => return x
      | .error problem => problemAt problem mark
  | .sequence tag items mark =>
    if isOwnTag tag then problemAt own mark
    else match inner with
      | none => problemAt "recursion limit exceeded" mark
      | some inner => return .array (← items.mapM inner)
  | .mapping tag members mark =>
    if isOwnTag tag then problemAt own mark
    else match inner with
      | none => problemAt "recursion limit exceeded" mark
      | some inner =>
        let members ← members.zipIdx.mapM fun ((key, value), i) => do
          let key ← keyText d limit (if i = 0 then "a string key" else "a string") key
          return (key, ← inner value)
        return Json.ofMembers members
  | .reference _ mark => problemAt "unknown anchor" mark

/-- The value of a node, with so many levels of collections left. -/
def Node.value (d : Document) (limit : Nat) : Nat → Node → Valuing Json
  | 0 => Node.valueWith d limit none
  | depth + 1 => Node.valueWith d limit (some (Node.value d limit depth))

/-- The deepest nesting of collections that is read. -/
def depthLimit : Nat := 128

def Document.value (d : Document) : Except String Json :=
  match d.root with
  | none => .ok .null
  | some root => ((root.value d (100 * root.parts) depthLimit).run 0).map (·.1)

/-- Reads a text as one generic value. -/
def parse (source : String) : Except String Json :=
  match Document.parse source.toList with
  | .error e => .error e
  | .ok (document, isLast) =>
    match document.value with
    | .error e => .error e
    | .ok value => if isLast then .ok value else .error severalDocuments

end PublicPath.Yaml
