import PublicPath.Files.Tree
import PublicPath.Report.Log

/-!
# The machine under a command

A command reads and writes files and tells what it does. It is written for any machine that can do
so, be it the real one or a file system that is a value.
-/

namespace PublicPath

class Machine (m : Type → Type) where
  read : String → m (Except FileFault ByteArray)
  write : String → ByteArray → m (Except FileFault Unit)
  makeDirectory : String → m (Except FileFault Unit)
  /-- Whether a directory stands at a path, provided that something does. -/
  status : String → m (Except FileFault Bool)
  print : String → m Unit
  complain : String → m Unit
  log : LogLine → m Unit

namespace Machine

variable {m : Type → Type} [Monad m] [Machine m]

/-- The text of a file. -/
def readText (path : String) : m (Except FileFault String) := do
  match ← read path with
  | .error e => return .error e
  | .ok content =>
    match String.fromUTF8? content with
    | some text => return .ok text
    | none => return .error .notText

def writeText (path text : String) : m (Except FileFault Unit) := write path text.toUTF8

def isDirectory (path : String) : m Bool := do
  match ← status path with
  | .ok directory => return directory
  | .error _ => return false

/-- Makes a directory that may exist already. -/
def ensureDirectory (path : String) : m (Except FileFault Unit) := do
  match ← makeDirectory path with
  | .ok () => return .ok ()
  | .error e => if ← isDirectory path then return .ok () else return .error e

/-- Makes a directory with those that it stands in; `fuel` bounds how many there are. -/
def ensureDirectories : Nat → String → m (Except FileFault Unit)
  | 0, path => ensureDirectory path
  | fuel + 1, path => do
    match ← ensureDirectory path with
    | .error .notFound =>
      match Path.parent? path with
      | none | some "" => return .error .notFound
      | some parent =>
        match ← ensureDirectories fuel parent with
        | .error e => return .error e
        | .ok () => ensureDirectory path
    | result => return result

/-- Makes the directories on the way to a file. -/
def ensureParent (path : String) : m (Except FileFault Unit) :=
  match Path.parent? path with
  | none | some "" => return .ok ()
  | some parent => ensureDirectories (Path.segments parent).length parent

end Machine

end PublicPath
