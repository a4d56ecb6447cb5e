import PublicPath.Build.CallPlugin
import PublicPath.Config.Error

/-!
# Project configurations

A project has the options of an initializer call, an output directory and a choice of diagnostics.
The command line overlays it. A compiler gets its call from a project or from an options value.
-/

namespace PublicPath

structure ProjectConfig where
  call : Option InitializerCall
  outDir : Option String
  /-- Whether diagnostics are coloured. -/
  pretty : Bool
deriving DecidableEq, Repr

/-- What the command line says in the place of the project. -/
structure Overrides where
  initializer : Option String
  entryName : Option String
  outDir : Option String
  pretty : Option Bool
deriving DecidableEq, Repr

namespace ProjectConfig

def default : ProjectConfig := ⟨none, none, true⟩

/-- A project to start from. -/
def sample : ProjectConfig := ⟨some ⟨"setPath", "app"⟩, some "dist", true⟩

/-! ## Generic values -/

def readOutDir : Option Json → Except Mismatch (Option String)
  | none | some .null => .ok none
  | some (.string s) => .ok (some s)
  | some value => .error (.wrongType value.shown "a string")

def readPretty : Option Json → Except Mismatch Bool
  | none => .ok true
  | some (.bool b) => .ok b
  | some value => .error (.wrongType value.shown "a boolean")

def readCall : Option Json → Except Mismatch (Option InitializerCall)
  | none | some .null => .ok none
  | some value =>
    match InitializerCall.ofJson value with
    | .ok c => .ok (some c)
    | .error violations => .error (.options violations)

/-- An object is read by the names of its members, in their order; other members are ignored. A
list holds the same three in the order of the structure. -/
def ofJson : Json → Except Mismatch ProjectConfig
  | .object members => do
    let outDir ← readOutDir (members.lookup "outDir")
    let pretty ← readPretty (members.lookup "pretty")
    let call ← readCall (members.lookup "rewrite")
    return ⟨call, outDir, pretty⟩
  | .array items => do
    let call ← readCall items[0]?
    let outDir ← readOutDir items[1]?
    let pretty ← readPretty items[2]?
    if 3 < items.length then throw (.tooLong items.length)
    return ⟨call, outDir, pretty⟩
  | value => .error (.wrongType value.shown "struct ProjectConfig")

def toJson (p : ProjectConfig) : Json :=
  .object <|
    (p.call.map fun c => ("rewrite", c.toJson)).toList ++
    (p.outDir.map fun s => ("outDir", Json.string s)).toList ++
    [("pretty", .bool p.pretty)]

/-! ## Overlays -/

/-- The members of the options that are given. -/
def optionMembers (initializer entryName : Option String) : List (String × Json) :=
  (initializer.map fun s => ("initializer", Json.string s)).toList ++
  (entryName.map fun s => ("entryName", Json.string s)).toList

/-- The options of the project with those of some overrides behind them, so that these count. -/
def overlaidMembers (p : ProjectConfig) (o : Overrides) : List (String × Json) :=
  optionMembers (p.call.map (·.initializer)) (p.call.map (·.entryName)) ++
    optionMembers o.initializer o.entryName

/-- The project under some overrides. The options are checked again when one of them is overridden;
should they be incomplete, the rest is overlaid all the same. -/
def merge (p : ProjectConfig) (o : Overrides) :
    ProjectConfig × Except (List SchemaViolation) Unit :=
  let p := { p with outDir := o.outDir <|> p.outDir, pretty := o.pretty.getD p.pretty }
  if o.initializer.isNone && o.entryName.isNone then (p, .ok ())
  else
    match InitializerCall.ofJson (.ofMembers (p.overlaidMembers o)) with
    | .ok call => ({ p with call := some call }, .ok ())
    | .error violations => (p, .error violations)

/-- The call, or the violations of a project without one. -/
def requiredCall (p : ProjectConfig) : Except (List SchemaViolation) InitializerCall :=
  match p.call with
  | some c => .ok c
  | none => .error ((Schema.initializerCall.filter (·.required)).map fun f => .missingField f.name)

end ProjectConfig

/-! ## Compilers -/

/-- Registers the call of an options object; all violations where the value is none. -/
def Compiler.registerOptions (c : Compiler) (options : Json) :
    Except (List SchemaViolation) Compiler :=
  (InitializerCall.ofJson options).map fun call => c.register call.plugin

/-- A new compiler with the call of the project, which must have one. -/
def ProjectConfig.compiler (p : ProjectConfig) : Except (List SchemaViolation) Compiler :=
  p.requiredCall.map fun call => Compiler.empty.register call.plugin

end PublicPath
