import PublicPath.Build.Compilation

/-!
# Compilers

A compiler holds the plugins and numbers its compilations. Every compilation gets one tap of each
plugin, so that no tap outlives its build.
-/

namespace PublicPath

structure Plugin where
  name : String
  /-- What the plugin logs when a compilation starts. -/
  onStart : Compilation → List LogLine
  react : RuntimeModule → Chunk → Reaction

def Plugin.tap (p : Plugin) : Tap := ⟨p.name, p.react⟩

structure Compiler where
  plugins : List Plugin
  /-- The number of the next compilation. A counter of 64 bits holds the same as long as fewer than
  `2 ^ 64` compilations have begun. -/
  nextId : Nat

namespace Compiler

def empty : Compiler := ⟨[], 0⟩

def register (c : Compiler) (p : Plugin) : Compiler := { c with plugins := c.plugins ++ [p] }

def pluginNames (c : Compiler) : List String := c.plugins.map (·.name)

/-- Starts each plugin on a compilation and adds its tap. -/
def attach : List Plugin → Compilation → Compilation × List BuildEvent
  | [], compilation => (compilation, [])
  | p :: more, compilation =>
    let (ready, told) := attach more (compilation.addTap p.tap)
    (ready, (p.onStart compilation).map .log ++ told)

/-- A new compilation of some chunks, ready to be processed. -/
def begin (c : Compiler) (entries : List ChunkEntry) :
    Compiler × Compilation × List BuildEvent :=
  let line : LogLine :=
    ⟨.debug, s!"Starting compilation {c.nextId} ({entries.length} chunk(s))"⟩
  let (ready, told) := attach c.plugins (.start c.nextId entries)
  ({ c with nextId := c.nextId + 1 }, ready, .log line :: told)

/-- Builds some chunks. -/
def run (c : Compiler) (entries : List ChunkEntry) : Compiler × Compilation × List BuildEvent :=
  let (c, ready, told) := c.begin entries
  let (done, later) := ready.process
  (c, done, told ++ later)

end Compiler

end PublicPath
