import PublicPath.Build.Tap

/-!
# Compilations

A compilation holds the chunks of one build. Processing shows every runtime module to every tap,
entry by entry; a place, which is a chunk id with the index of a module, is shown only once in the
life of a compilation.
-/

namespace PublicPath

/-- One build of a set of chunks. -/
structure Compilation where
  id : Nat
  taps : List Tap
  entries : List ChunkEntry
  /-- The places that were shown, as chunk ids and module indices. -/
  visited : List (Nat × Nat)
  mutated : List Chunk
  errors : List ShapeError

/-- The code of a chunk. -/
structure RenderedChunk where
  chunk : Chunk
  code : String
deriving DecidableEq, Repr

namespace Compilation

def start (id : Nat) (entries : List ChunkEntry) : Compilation := ⟨id, [], entries, [], [], []⟩

def addTap (c : Compilation) (tap : Tap) : Compilation := { c with taps := c.taps ++ [tap] }

def tapNames (c : Compilation) : List String := c.taps.map (·.name)

def chunks (c : Compilation) : List Chunk := c.entries.map (·.chunk)

def hasErrors (c : Compilation) : Bool := !c.errors.isEmpty

/-- The modules of the first chunk with an id. -/
def modulesOf (c : Compilation) (id : Nat) : Option (List RuntimeModule) :=
  (c.entries.find? fun e => e.chunk.id = id).map (·.modules)

/-- Where the modules are: index of the entry, index of the module. -/
def places (c : Compilation) : List (Nat × Nat) :=
  c.entries.zipIdx.flatMap fun (entry, i) => (List.range entry.modules.length).map (i, ·)

/-- Shows one module to the taps, unless its place was shown before. -/
def visit (c : Compilation) (place : Nat × Nat) : Compilation × List BuildEvent :=
  match c.entries[place.1]? with
  | none => (c, [])
  | some entry =>
    match entry.modules[place.2]? with
    | none => (c, [])
    | some m =>
      if (entry.chunk.id, place.2) ∈ c.visited then (c, [])
      else
        let shown := showAll c.taps entry.chunk m
        let line : LogLine :=
          ⟨.debug, s!"Runtime module {m.kind.title} in chunk {entry.chunk.label}"⟩
        let entry' := { entry with modules := entry.modules.set place.2 shown.module }
        ({ c with
            entries := c.entries.set place.1 entry'
            visited := (entry.chunk.id, place.2) :: c.visited
            mutated := c.mutated ++ shown.mutated
            errors := c.errors ++ shown.errors },
          .log line :: shown.events)

/-- Visits places in order. -/
def visitAll (c : Compilation) : List (Nat × Nat) → Compilation × List BuildEvent
  | [] => (c, [])
  | place :: more =>
    let (c, told) := c.visit place
    let (c, later) := c.visitAll more
    (c, told ++ later)

/-- Shows all modules that were not shown before. -/
def process (c : Compilation) : Compilation × List BuildEvent :=
  c.visitAll c.places

def renderEntry (entry : ChunkEntry) : RenderedChunk :=
  ⟨entry.chunk,
    String.join (entry.modules.map fun m => "// " ++ m.kind.title ++ "\n" ++ m.code ++ "\n")⟩

def render (c : Compilation) : List RenderedChunk := c.entries.map renderEntry

end Compilation

end PublicPath
