import PublicPath.Endpoint.Map
import PublicPath.Json.Reader

/-!
# Reading a runtime map from a text

The text is read straight into the map, from left to right, so that the order of the text is kept
and a value of the wrong type is found at its place. Of several members with one name the first
gives the place and the last the value; an endpoint has at most one `href`.
-/

namespace PublicPath

open Json

/-- The fault at a value that has the wrong type. A value that is no container is read first. -/
def wrongType {α : Type} (cs : List Char) : Reading α :=
  match cs with
  | '[' :: _ | '\x7b' :: _ => .error ⟨.mismatch, cs.length⟩
  | cs =>
    match readScalar cs with
    | .error e => .error e
    | .ok (_, rest) => .error ⟨.mismatch, rest.length⟩

/-- A member of an endpoint. -/
inductive EndpointField where
  | href (value : Option String)
  | other (value : Json)

def readHref (cs : List Char) : Reading EndpointField :=
  match skipSpace cs with
  | '"' :: rest => (readString rest).map fun (s, rest) => (.href (some (String.ofList s)), rest)
  | 'n' :: rest => (readWord "null".toList ('n' :: rest)).map fun rest => (.href none, rest)
  | rest => wrongType rest

/-- The levels of containers that the map itself takes. -/
def mapDepth : Nat := 3

def readField (name : String) (cs : List Char) : Reading EndpointField :=
  if name = "href" then readHref cs
  else (readValue (depthLimit - mapDepth) cs).map fun (value, rest) => (.other value, rest)

/-- The endpoint of its members in the order of the text. -/
def Endpoint.ofFields (fields : List (String × EndpointField)) : Endpoint :=
  { href := fields.findSome? fun (_, field) =>
      match field with
      | .href value => value
      | .other _ => none
    extra := sortMembers <| fields.filterMap fun (name, field) =>
      match field with
      | .href _ => none
      | .other value => some (name, value) }

/-- An object whose members one reader reads. -/
def readTyped {α : Type} (once : Option String) (value : String → List Char → Reading α)
    (cs : List Char) : Reading (List (String × α)) :=
  match skipSpace cs with
  | '\x7b' :: rest => readObject once value rest
  | rest => wrongType rest

/-- Members by name: the first gives the place, the last the value. -/
def collect {α : Type} (members : List (String × α)) : List (String × α) :=
  members.foldl (fun xs (name, x) => insertLast name x xs) []

def readEndpoint (cs : List Char) : Reading Endpoint :=
  (readTyped (some "href") readField cs).map fun (fields, rest) => (.ofFields fields, rest)

def readEnvironments (cs : List Char) : Reading (List (String × Endpoint)) :=
  (readTyped none (fun _ => readEndpoint) cs).map fun (members, rest) => (collect members, rest)

def RuntimeMap.read (cs : List Char) : Reading RuntimeMap :=
  (readTyped none (fun _ => readEnvironments) cs).map fun (members, rest) =>
    (⟨collect members⟩, rest)

/-- Reads a text as a runtime map. -/
def RuntimeMap.parse (source : String) : Except Fault RuntimeMap :=
  readWhole? RuntimeMap.read source.toList

end PublicPath
