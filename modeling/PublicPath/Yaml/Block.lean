import PublicPath.Yaml.Cursor

/-!
# Block scalars

A block scalar is the indented lines under its header. A literal one keeps its line breaks, a folded
one turns single ones between words into spaces. The header may give the indentation and what
becomes of the line breaks at the end.
-/

namespace PublicPath.Yaml

/-- What becomes of the line breaks at the end. -/
inductive Chomping where
  | strip
  | clip
  | keep
deriving DecidableEq, Repr

structure BlockHeader where
  chomping : Chomping
  /-- The indentation beyond the collection's; none where the first line gives it. -/
  increment : Option Nat

def blockContext : String := "while scanning a block scalar"

def chomping? (c : Option Char) : Option Chomping :=
  match c with
  | some '+' => some .keep
  | some '-' => some .strip
  | _ => none

def digit? (c : Option Char) : Option Nat :=
  match c with
  | some c => if c.isDigit then some (c.toNat - '0'.toNat) else none
  | none => none

/-- The two marks of a header, in either order. -/
def readBlockHeader (begun : Mark) (c : Cursor) : Except Fault (BlockHeader × Cursor) :=
  let zero (c : Cursor) := c.faultIn "found an indentation indicator equal to 0" blockContext begun
  match chomping? c.head?, digit? c.head? with
  | some chomping, _ =>
    let c := c.skip 1
    match digit? c.head? with
    | some 0 => .error (zero c)
    | some n => .ok (⟨chomping, some n⟩, c.skip 1)
    | none => .ok (⟨chomping, none⟩, c)
  | none, some 0 => .error (zero c)
  | none, some n =>
    let c := c.skip 1
    match chomping? c.head? with
    | some chomping => .ok (⟨chomping, some n⟩, c.skip 1)
    | none => .ok (⟨.clip, some n⟩, c)
  | none, none => .ok (⟨.clip, none⟩, c)

/-- Empty lines and the indentation of the line behind them. While `indent` is not known, it is the
widest indentation so far. -/
def readEmptyLines (begun : Mark) (indent : Option Nat) :
    Nat → Nat → Cursor → Except Fault (List Char × Nat × Cursor)
  | 0, widest, c => .ok ([], widest, c)
  | fuel + 1, widest, c =>
    let room := (indent.map (· - c.column)).getD c.rest.length
    let c := c.skip (min room (c.rest.takeWhile (· = ' ')).length)
    let widest := max widest c.column
    if indent.all (c.column < ·) && c.head? = some '\t' then
      .error (c.faultIn "found a tab character where an indentation space is expected"
        blockContext begun)
    else if c.atBreak then
      let (line, c) := c.readBreak
      match readEmptyLines begun indent fuel widest c with
      | .error e => .error e
      | .ok (more, widest, c) => .ok (line ++ more, widest, c)
    else .ok ([], widest, c)

/-- The lines of a block scalar. `ended` is the break of the line before, `empty` the breaks of the
empty lines behind it, and `spaced` tells that the line before starts with a blank. -/
def blockLines (literal : Bool) (chomping : Chomping) (indent : Nat) (begun : Mark) :
    Nat → List Char → List Char → Bool → Cursor → Except Fault (List Char × Cursor)
  | 0, _, _, _, c => .ok ([], c)
  | fuel + 1, ended, empty, spaced, c =>
    if c.column = indent ∧ c.rest ≠ [] then
      let blank := c.atSpaceOrTab
      let front :=
        if !literal && ended = ['\n'] && !spaced && !blank then
          if empty = [] then [' '] else empty
        else ended ++ empty
      let line := c.rest.takeWhile fun x => !isBreak x
      let (ended, c) := (c.skip line.length).readBreak
      match readEmptyLines begun (some indent) (c.rest.length + 1) 0 c with
      | .error e => .error e
      | .ok (empty, _, c) =>
        match blockLines literal chomping indent begun fuel ended empty blank c with
        | .error e => .error e
        | .ok (more, c) => .ok (front ++ line ++ more, c)
    else
      let tail := match chomping with
        | .strip => []
        | .clip => ended
        | .keep => ended ++ empty
      .ok (tail, c)

/-- A block scalar from its first mark, inside a collection that is indented by `parent`. -/
def readBlock (literal : Bool) (parent : Int) (c : Cursor) : Except Fault (List Char × Cursor) :=
  let begun := c.mark
  match readBlockHeader begun (c.skip 1) with
  | .error e => .error e
  | .ok (header, c) =>
    let c := c.skipWhile isSpaceOrTab
    let c := if c.head? = some '#' then c.skipWhile (fun x => !isBreak x) else c
    if c.rest ≠ [] ∧ !c.atBreak then
      .error (c.faultIn "did not find expected comment or line break" blockContext begun)
    else
      let c := c.readBreak.2
      let known := header.increment.map fun n => (max parent 0).toNat + n
      match readEmptyLines begun known (c.rest.length + 1) 0 c with
      | .error e => .error e
      | .ok (empty, widest, c) =>
        let indent := known.getD (max (max widest (parent + 1).toNat) 1)
        blockLines literal header.chomping indent begun (c.rest.length + 1) [] empty false c

end PublicPath.Yaml
