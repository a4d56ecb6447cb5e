import PublicPath.Json.Numeral
import PublicPath.Json.StringLiteral

/-!
# Reading

Objects and arrays are read by two loops that take the reader of their members, so that a generic
value and a value of a known type share them. Containers nest at most 127 deep.
-/

namespace PublicPath.Json

/-- The outcome of reading from a text: what was read, and the text behind it. -/
abbrev Reading (α : Type) := Except Fault (α × List Char)

def isSpace (c : Char) : Bool :=
  c == ' ' || c == '\n' || c == '\t' || c == '\r'

def skipSpace (cs : List Char) : List Char := cs.dropWhile isSpace

/-- The deepest nesting of containers that is read. -/
def depthLimit : Nat := 127

/-- A given word, its first letter included. -/
def readWord : List Char → List Char → Except Fault (List Char)
  | [], cs => .ok cs
  | w :: word, c :: cs => if c = w then readWord word cs else .error ⟨.malformed, cs.length⟩
  | _ :: _, [] => .error ⟨.endOfText, 0⟩

/-- The name of a member. -/
def readName (cs : List Char) : Reading String :=
  match cs with
  | '"' :: rest => (readString rest).map fun (name, rest) => (String.ofList name, rest)
  | cs => .error (Fault.at cs)

/-- The text behind the colon between a name and its value. -/
def readColon (cs : List Char) : Except Fault (List Char) :=
  match skipSpace cs with
  | ':' :: rest => .ok rest
  | rest => .error (Fault.at rest)

/-- The members of an object up to its closing brace, where `cs` starts at a name. The name `once`
is refused where `seen` tells that it stood before. -/
def readMembers {α : Type} (once : Option String) (value : String → List Char → Reading α) :
    Nat → Bool → List Char → Reading (List (String × α))
  | 0, _, cs => .error (Fault.at cs)
  | fuel + 1, seen, cs =>
    match readName cs with
    | .error e => .error e
    | .ok (name, rest) =>
      if seen ∧ once = some name then .error ⟨.mismatch, rest.length⟩
      else match readColon rest with
        | .error e => .error e
        | .ok rest =>
          match value name rest with
          | .error e => .error e
          | .ok (x, rest) =>
            match skipSpace rest with
            | '\x7d' :: rest => .ok ([(name, x)], rest)
            | ',' :: rest =>
              (readMembers once value fuel (seen || once = some name) (skipSpace rest)).map
                fun (more, rest) => ((name, x) :: more, rest)
            | rest => .error (Fault.at rest)

/-- An object from behind its opening brace. Its members stand in the order of the text. -/
def readObject {α : Type} (once : Option String) (value : String → List Char → Reading α)
    (cs : List Char) : Reading (List (String × α)) :=
  match skipSpace cs with
  | '\x7d' :: rest => .ok ([], rest)
  | rest => readMembers once value rest.length false rest

/-- The items of an array up to its closing bracket. -/
def readItems {α : Type} (item : List Char → Reading α) :
    Nat → List Char → Reading (List α)
  | 0, cs => .error (Fault.at cs)
  | fuel + 1, cs =>
    match item cs with
    | .error e => .error e
    | .ok (x, rest) =>
      match skipSpace rest with
      | ']' :: rest => .ok ([x], rest)
      | ',' :: rest => (readItems item fuel rest).map fun (more, rest) => (x :: more, rest)
      | rest => .error (Fault.at rest)

/-- An array from behind its opening bracket. -/
def readArray {α : Type} (item : List Char → Reading α) (cs : List Char) : Reading (List α) :=
  match skipSpace cs with
  | ']' :: rest => .ok ([], rest)
  | rest => readItems item rest.length rest

/-- A value that is no container; the reader of a container takes over at its bracket. -/
def readScalar (cs : List Char) : Reading Json :=
  match cs with
  | 'n' :: _ => (readWord "null".toList cs).map fun rest => (.null, rest)
  | 't' :: _ => (readWord "true".toList cs).map fun rest => (.bool true, rest)
  | 'f' :: _ => (readWord "false".toList cs).map fun rest => (.bool false, rest)
  | '"' :: rest => (readString rest).map fun (text, rest) => (.string (String.ofList text), rest)
  | c :: _ =>
    if c = '-' ∨ c.isDigit then (readNumber cs).map fun (n, rest) => (.number n, rest)
    else .error (Fault.at cs)
  | [] => .error (Fault.at [])

/-- A generic value, with so many levels of containers left. -/
def readValue (depth : Nat) (cs : List Char) : Reading Json :=
  match skipSpace cs with
  | '[' :: rest =>
    match depth with
    | 0 => .error (Fault.at ('[' :: rest))
    | depth + 1 => (readArray (readValue depth) rest).map fun (items, rest) => (.array items, rest)
  | '\x7b' :: rest =>
    match depth with
    | 0 => .error (Fault.at ('\x7b' :: rest))
    | depth + 1 =>
      (readObject none (fun _ => readValue depth) rest).map fun (members, rest) =>
        (ofMembers members, rest)
  | rest => readScalar rest

/-- What a reader makes of a whole text: only space may follow. -/
def readWhole? {α : Type} (read : List Char → Reading α) (cs : List Char) : Except Fault α :=
  match read cs with
  | .error e => .error e
  | .ok (x, rest) =>
    match skipSpace rest with
    | [] => .ok x
    | rest => .error ⟨.malformed, rest.length⟩

/-- Reads a text as one generic value. -/
def parse (source : String) : Except Fault Json :=
  readWhole? (readValue depthLimit) source.toList

end PublicPath.Json
