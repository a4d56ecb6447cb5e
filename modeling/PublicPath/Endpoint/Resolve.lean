import PublicPath.Endpoint.Format

/-!
# Resolving base paths

The host page publishes a runtime map and the name of the active environment. The base path of an
entry is its `href` there, followed by a slash whatever its last character is.
-/

namespace PublicPath

/-- The global that holds the runtime map. -/
def mapGlobal : String := "__MAP__"

/-- The global that holds the name of the active environment. -/
def environmentGlobal : String := "__ENVIRONMENT__"

inductive ResolveError where
  | missingGlobal (name : String)
  | invalidGlobal (name expected : String)
  | unknownEntry (entry : String)
  | unknownEnvironment (entry environment : String)
  | missingHref (entry environment : String)
deriving DecidableEq, Repr

def ResolveError.message : ResolveError → String
  | missingGlobal name => s!"Runtime global '{name}' is not defined"
  | invalidGlobal name expected => s!"Runtime global '{name}' should be {expected}"
  | unknownEntry entry =>
    s!"Cannot read properties of undefined: no entry '{entry}' in the runtime map"
  | unknownEnvironment entry environment =>
    s!"Cannot read properties of undefined: entry '{entry}' has no environment '{environment}'"
  | missingHref entry environment => s!"Endpoint '{entry}.{environment}' has no 'href'"

/-- A runtime map and the active environment. -/
structure RuntimeConfig where
  map : RuntimeMap
  environment : String

namespace RuntimeConfig

/-- Reads the globals of the host page. The map is checked before the environment. -/
def ofGlobals (globals : Json) : Except ResolveError RuntimeConfig :=
  match globals.get? mapGlobal with
  | none => .error (.missingGlobal mapGlobal)
  | some value =>
    match RuntimeMap.ofJson? value with
    | none =>
      .error (.invalidGlobal mapGlobal
        "an object of entries to environments to endpoint records")
    | some map =>
      match globals.get? environmentGlobal with
      | none => .error (.missingGlobal environmentGlobal)
      | some (.string environment) => .ok ⟨map, environment⟩
      | some _ => .error (.invalidGlobal environmentGlobal "a string")

/-- The base path of an entry in the active environment. -/
def resolve (c : RuntimeConfig) (entry : String) : Except ResolveError String :=
  match c.map.environments? entry with
  | none => .error (.unknownEntry entry)
  | some environments =>
    match environments.lookup c.environment with
    | none => .error (.unknownEnvironment entry c.environment)
    | some endpoint =>
      match endpoint.href with
      | none => .error (.missingHref entry c.environment)
      | some href => .ok (href ++ "/")

end RuntimeConfig

end PublicPath
