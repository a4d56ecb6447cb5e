/-!
# Kinds of runtime modules

The host names its runtime modules, with or without a fixed front part. A kind is the name without
it; the kinds that the bundler generates have constructors of their own.
-/

namespace PublicPath

inductive ModuleKind where
  /-- Assigns the static public path. -/
  | publicPath
  /-- Derives the public path from the URL of the running script. -/
  | autoPublicPath
  | getChunkFilename
  | loadScript
  | jsonpChunkLoading
  | ensureChunk
  | definePropertyGetters
  | hasOwnProperty
  | makeNamespaceObject
  | global
  | other (name : String)
deriving DecidableEq, Repr

namespace ModuleKind

/-- Changes whenever the names below change. -/
def tableVersion : Nat := 1

/-- The front part of the host's names. -/
def hostScope : String := "webpack/runtime/"

/-- A name without one front part. -/
def bareName (name : String) : String :=
  let scope := hostScope.toList
  let cs := name.toList
  if scope.isPrefixOf cs then String.ofList (cs.drop scope.length) else name

/-- The bundler's own kinds by name. -/
def table : List (String × ModuleKind) :=
  [("publicPath", publicPath),
    ("auto publicPath", autoPublicPath),
    ("get javascript chunk filename", getChunkFilename),
    ("load script", loadScript),
    ("jsonp chunk loading", jsonpChunkLoading),
    ("ensure chunk", ensureChunk),
    ("define property getters", definePropertyGetters),
    ("hasOwnProperty shorthand", hasOwnProperty),
    ("make namespace object", makeNamespaceObject),
    ("global", global)]

def ofBareName (name : String) : ModuleKind := (table.lookup name).getD (other name)

def ofHostName (name : String) : ModuleKind := ofBareName (bareName name)

/-- The host's name of a kind, without the front part. -/
def hostName : ModuleKind → String
  | publicPath => "publicPath"
  | autoPublicPath => "auto publicPath"
  | getChunkFilename => "get javascript chunk filename"
  | loadScript => "load script"
  | jsonpChunkLoading => "jsonp chunk loading"
  | ensureChunk => "ensure chunk"
  | definePropertyGetters => "define property getters"
  | hasOwnProperty => "hasOwnProperty shorthand"
  | makeNamespaceObject => "make namespace object"
  | global => "global"
  | other name => name

/-- The whole host name of a kind. -/
def title (k : ModuleKind) : String := hostScope ++ k.hostName

def isPublicPath (k : ModuleKind) : Bool := k == publicPath

theorem hostName_of_mem_table : ∀ row ∈ table, row.2.hostName = row.1 := by decide

theorem hostName_ofBareName (name : String) : (ofBareName name).hostName = name := by
  unfold ofBareName
  cases h : table.lookup name with
  | none => rfl
  | some kind =>
    obtain ⟨front, back, h, -⟩ := List.lookup_eq_some_iff.1 h
    exact hostName_of_mem_table (name, kind) (by rw [h]; simp)

end ModuleKind

end PublicPath
