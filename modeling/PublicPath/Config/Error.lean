import PublicPath.Config.Schema
import PublicPath.Files.Tree
import PublicPath.Json.Fault
import PublicPath.Json.Numeral
import PublicPath.Text.Shown

/-!
# Errors of configuration files
-/

namespace PublicPath

/-- The violations of one options object. -/
def optionsMessage (violations : List SchemaViolation) : String :=
  "Invalid rewriter options: " ++ "; ".intercalate (violations.map (·.message))

/-- How a message names a value of the wrong type. -/
def Json.shown : Json → String
  | .null => "null"
  | .bool b => if b then "boolean `true`" else "boolean `false`"
  | .number (.integer n) => s!"integer `{n}`"
  | .number (.real x) => "floating point `" ++ realLayout.writeFloat x ++ "`"
  | .string s => "string " ++ Text.shownText s
  | .array _ => "sequence"
  | .object _ => "map"

/-- Why a value is no project configuration. -/
inductive Mismatch where
  | wrongType (found : String) (expected : String)
  | tooLong (length : Nat)
  | options (violations : List SchemaViolation)
deriving DecidableEq, Repr

def Mismatch.message : Mismatch → String
  | wrongType found expected => s!"invalid type: {found}, expected {expected}"
  | tooLong length => s!"invalid length {length}, expected fewer elements in array"
  | options violations => optionsMessage violations

inductive ConfigError where
  | file (fault : FileFault)
  /-- The text cannot be read as the data format. -/
  | unreadable (kind : Json.FaultKind) (detail : String)
  /-- The text can be read, but its value does not fit. -/
  | mismatch (cause : Mismatch)
  | yaml (detail : String)
  | unsupportedFormat (path : String)
  | options (violations : List SchemaViolation)
deriving DecidableEq, Repr

namespace ConfigError

/-- What the error wraps. -/
def detail? : ConfigError → Option String
  | file fault => some fault.message
  | unreadable _ detail => some detail
  | mismatch cause => some cause.message
  | yaml detail => some detail
  | unsupportedFormat _ | options _ => none

def message : ConfigError → String
  | file fault => "IO error: " ++ fault.message
  | unreadable _ detail => "Invalid JSON: " ++ detail
  | mismatch cause => "Invalid JSON: " ++ cause.message
  | yaml detail => "Invalid YAML: " ++ detail
  | unsupportedFormat path =>
    s!"Unsupported configuration format: {path} (expected .json, .yaml or .yml)"
  | options violations => optionsMessage violations

/-- The violations of an options error. -/
def violations : ConfigError → List SchemaViolation
  | options violations => violations
  | _ => []

end ConfigError

end PublicPath
