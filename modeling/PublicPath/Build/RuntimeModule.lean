import PublicPath.Build.ModuleKind
import PublicPath.Json.StringLiteral

/-!
# Chunks and their runtime modules
-/

namespace PublicPath

/-- An output chunk of the bundler. Several chunks may share an id. -/
structure Chunk where
  id : Nat
  name : Option String
deriving DecidableEq, Repr

/-- How messages name a chunk: by its name, even an empty one, or else by its id. -/
def Chunk.label (c : Chunk) : String :=
  match c.name with
  | some name => name
  | none => s!"#{c.id}"

/-- A piece of start-up code that the bundler generates for a chunk. -/
structure RuntimeModule where
  kind : ModuleKind
  code : String
deriving DecidableEq, Repr

namespace RuntimeModule

def ofHostName (name code : String) : RuntimeModule := ⟨.ofHostName name, code⟩

/-- The module that assigns a static public path. -/
def publicPath (path : String) : RuntimeModule :=
  ⟨.publicPath, "__webpack_require__.p = " ++ Json.stringLiteral path ++ ";"⟩

end RuntimeModule

/-- A chunk with its runtime modules. -/
structure ChunkEntry where
  chunk : Chunk
  modules : List RuntimeModule
deriving DecidableEq, Repr

end PublicPath
