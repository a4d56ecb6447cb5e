/-!
# Generic values

A value of the data format. The members of an object that was read stand in the order of their
names, and of several members with one name the last one counts.
-/

namespace PublicPath

/-- A number is an integer of 64 bits, signed or not, or a double. -/
inductive Json.Number where
  | integer (n : Int)
  | real (x : Float)

inductive Json where
  | null
  | bool (b : Bool)
  | number (n : Json.Number)
  | string (s : String)
  | array (items : List Json)
  | object (members : List (String × Json))

namespace Json

/-- Puts a member at its place, over an earlier one of the same name. -/
def insertMember {α : Type} (name : String) (value : α) :
    List (String × α) → List (String × α)
  | [] => [(name, value)]
  | (other, old) :: rest =>
    if name < other then (name, value) :: (other, old) :: rest
    else if name = other then (name, value) :: rest
    else (other, old) :: insertMember name value rest

/-- Members in the order of their names, the last one of each name. -/
def sortMembers {α : Type} (members : List (String × α)) : List (String × α) :=
  members.foldl (fun sorted (name, value) => insertMember name value sorted) []

def ofMembers (members : List (String × Json)) : Json :=
  .object (sortMembers members)

/-- The member of an object; none for every other value. -/
def get? (name : String) : Json → Option Json
  | object members => members.lookup name
  | _ => none

/-- The name of a value's type, as schema messages use it. -/
def typeName : Json → String
  | null => "null"
  | bool _ => "boolean"
  | number _ => "number"
  | string _ => "string"
  | array _ => "array"
  | object _ => "object"

end Json

end PublicPath
