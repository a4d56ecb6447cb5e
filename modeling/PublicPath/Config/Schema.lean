import PublicPath.Build.InitializerCall
import PublicPath.Json.Basic

/-!
# Schemas of options

A schema lists the members that an object may have. Checking a value against it finds every
violation: first those of the listed members in the order of the schema, then the members that are
not listed in the order of the value. The options of an initializer call have a schema of their own.
-/

namespace PublicPath

/-- The type that a member must have. -/
inductive FieldType where
  | string
deriving DecidableEq, Repr

def FieldType.name : FieldType → String
  | string => "string"

def FieldType.accepts : FieldType → Json → Bool
  | string, .string _ => true
  | string, _ => false

structure SchemaField where
  name : String
  type : FieldType
  required : Bool
deriving DecidableEq, Repr

inductive SchemaViolation where
  | notAnObject (found : String)
  | missingField (field : String)
  | wrongType (field expected found : String)
  | unknownField (field : String)
deriving DecidableEq, Repr

namespace SchemaViolation

def field? : SchemaViolation → Option String
  | notAnObject _ => none
  | missingField field | wrongType field _ _ | unknownField field => some field

def message : SchemaViolation → String
  | notAnObject found => s!"options should be an object, found {found}"
  | missingField field => s!"missing required property '{field}'"
  | wrongType field expected found => s!"property '{field}' should be a {expected}, found {found}"
  | unknownField field => s!"unknown property '{field}'"

end SchemaViolation

abbrev Schema := List SchemaField

namespace Schema

/-- What one listed member violates. -/
def checkField (members : List (String × Json)) (f : SchemaField) : Option SchemaViolation :=
  match members.lookup f.name with
  | none => if f.required then some (.missingField f.name) else none
  | some found =>
    if f.type.accepts found then none
    else some (.wrongType f.name f.type.name found.typeName)

/-- All violations of a value; none for a value that fits. -/
def violations (s : Schema) : Json → List SchemaViolation
  | .object members =>
    s.filterMap (checkField members) ++
      (members.filter fun (name, _) => !s.any (·.name = name)).map fun (name, _) =>
        .unknownField name
  | value => [.notAnObject value.typeName]

/-- The options of an initializer call: two texts, both required, and nothing else. -/
def initializerCall : Schema :=
  [⟨"initializer", .string, true⟩, ⟨"entryName", .string, true⟩]

end Schema

namespace InitializerCall

/-- The text of a member; empty where there is none. -/
def textOf (name : String) (value : Json) : String :=
  match value.get? name with
  | some (.string s) => s
  | _ => ""

/-- The call of an options object that fits the schema; otherwise all violations. -/
def ofJson (value : Json) : Except (List SchemaViolation) InitializerCall :=
  match Schema.initializerCall.violations value with
  | [] => .ok ⟨textOf "initializer" value, textOf "entryName" value⟩
  | violations => .error violations

def toJson (c : InitializerCall) : Json :=
  .object [("initializer", .string c.initializer), ("entryName", .string c.entryName)]

end InitializerCall

end PublicPath
