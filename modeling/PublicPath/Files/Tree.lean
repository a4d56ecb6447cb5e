import PublicPath.Files.Path

/-!
# A file system

Directories and files by their names from the root down, and the working directory. Every step of a
path needs a directory to start from, also a step back. A request that cannot be met ends in a
fault.
-/

namespace PublicPath

/-- Why the file system refuses a request. -/
inductive FileFault where
  | notFound
  | alreadyExists
  | notADirectory
  | isADirectory
  /-- The file's bytes are not UTF-8. -/
  | notText
  | other (message : String)
deriving DecidableEq, Repr

def FileFault.message : FileFault → String
  | notFound => "No such file or directory (os error 2)"
  | alreadyExists => "File exists (os error 17)"
  | notADirectory => "Not a directory (os error 20)"
  | isADirectory => "Is a directory (os error 21)"
  | notText => "stream did not contain valid UTF-8"
  | other message => message

inductive FileNode where
  | directory
  | file (content : ByteArray)

def FileNode.isDirectory : FileNode → Bool
  | directory => true
  | file _ => false

structure Files where
  /-- The names from the root to the working directory. -/
  working : List String
  nodes : List (List String × FileNode)

namespace Files

/-- What stands at a place; the root is always a directory. -/
def node? (f : Files) (place : List String) : Option FileNode :=
  if place = [] then some .directory else f.nodes.lookup place

def isDirectory (f : Files) (place : List String) : Bool := (f.node? place).any (·.isDirectory)

/-- Puts a node at a place, over the one that stands there. -/
def set (f : Files) (place : List String) (node : FileNode) : Files :=
  { f with nodes := (place, node) :: f.nodes.filter (·.1 ≠ place) }

/-- One step from a place. -/
def step (f : Files) (place : List String) (c : Path.Component) :
    Except FileFault (List String) :=
  if !f.isDirectory place then .error .notADirectory
  else match c with
    | .root => .ok []
    | .current => .ok place
    | .parent => .ok place.dropLast
    | .name s => if (f.node? (place ++ [s])).isSome then .ok (place ++ [s]) else .error .notFound

def walk (f : Files) (place : List String) : List Path.Component → Except FileFault (List String)
  | [] => .ok place
  | c :: cs =>
    match f.step place c with
    | .error e => .error e
    | .ok place => f.walk place cs

/-- Whether a path can only name a directory. -/
def asksForDirectory (path : String) : Bool :=
  match (Path.segments path).getLast? with
  | some "" | some "." => true
  | _ => false

/-- The place of an existing node. -/
def locate (f : Files) (path : String) : Except FileFault (List String) :=
  if path = "" then .error .notFound
  else match f.walk f.working (Path.components path) with
    | .error e => .error e
    | .ok place =>
      if asksForDirectory path && !f.isDirectory place then .error .notADirectory else .ok place

/-- The place that a path names, whether something stands there or not. -/
def destination (f : Files) (path : String) : Except FileFault (List String) :=
  let cs := Path.components path
  match cs.getLast? with
  | some (.name s) =>
    match f.walk f.working cs.dropLast with
    | .error e => .error e
    | .ok place => if f.isDirectory place then .ok (place ++ [s]) else .error .notADirectory
  | _ => f.locate path

def read (f : Files) (path : String) : Except FileFault ByteArray :=
  match f.locate path with
  | .error e => .error e
  | .ok place =>
    match f.node? place with
    | some (.file content) => .ok content
    | _ => .error .isADirectory

/-- Whether a directory stands at a path, provided that something does. -/
def status (f : Files) (path : String) : Except FileFault Bool :=
  (f.locate path).map f.isDirectory

/-- Writes a whole file; its directory must exist. -/
def write (f : Files) (path : String) (content : ByteArray) : Except FileFault Files :=
  match f.destination path with
  | .error e => .error e
  | .ok place =>
    if f.isDirectory place || asksForDirectory path then .error .isADirectory
    else .ok (f.set place (.file content))

/-- Makes one directory in an existing one. -/
def makeDirectory (f : Files) (path : String) : Except FileFault Files :=
  match f.destination path with
  | .error e => .error e
  | .ok place =>
    if (f.node? place).isSome then .error .alreadyExists else .ok (f.set place .directory)

end Files

end PublicPath
