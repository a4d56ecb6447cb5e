import PublicPath.CommandLine.Machine
import PublicPath.Files.Tree

/-!
# Sessions

A session is a machine that is a value: a file system, and what commands told so far.
-/

namespace PublicPath

structure Session where
  files : Files
  stdout : String
  stderr : String
  logs : List LogLine

namespace Session

def ofFiles (files : Files) : Session := ⟨files, "", "", []⟩

/-- Changes the file system, unless that is refused. -/
def change (f : Files → Except FileFault Files) : StateM Session (Except FileFault Unit) := do
  let session ← get
  match f session.files with
  | .ok files =>
    set { session with files := files }
    return .ok ()
  | .error e => return .error e

instance : Machine (StateM Session) where
  read path := return (← get).files.read path
  write path content := change fun f => f.write path content
  makeDirectory path := change fun f => f.makeDirectory path
  status path := return (← get).files.status path
  print s := modify fun x => { x with stdout := x.stdout ++ s }
  complain s := modify fun x => { x with stderr := x.stderr ++ s }
  log line := modify fun x => { x with logs := x.logs ++ [line] }

end Session

end PublicPath
