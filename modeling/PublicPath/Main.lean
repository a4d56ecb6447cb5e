import PublicPath.CommandLine.Run

/-!
# The program

The machine that it runs on, and the loop that waits for changed files.
-/

namespace PublicPath

/-- A run on the real machine shows the log lines that a filter admits. -/
abbrev Terminal := ReaderT LogFilter IO

namespace Terminal

def fault : IO.Error → FileFault
  | .noFileOrDirectory .. => .notFound
  | .alreadyExists .. => .alreadyExists
  | .inappropriateType _ code _ => if code = 21 then .isADirectory else .notADirectory
  | .permissionDenied .. => .other "Permission denied (os error 13)"
  | e => .other (toString e)

/-- Turns a failing action into an answer. -/
def attempt {α : Type} (action : IO α) : Terminal (Except FileFault α) := do
  match ← (action.toBaseIO : BaseIO (Except IO.Error α)) with
  | .ok a => return .ok a
  | .error e => return .error (fault e)

def metadata (path : String) : IO IO.FS.Metadata := (System.mkFilePath [path]).metadata

def isDirectory (path : String) : IO Bool := do
  match (← metadata path).type with
  | .dir => return true
  | _ => return false

def send (stream : IO.FS.Stream) (s : String) : IO Unit := do
  stream.putStr s
  stream.flush

instance : Machine Terminal where
  read path := attempt (IO.FS.readBinFile path)
  write path content := attempt (IO.FS.writeBinFile path content)
  makeDirectory path := attempt (IO.FS.createDir path)
  status path := attempt (isDirectory path)
  print s := do send (← IO.getStdout) s
  complain s := do send (← IO.getStderr) s
  log line := do
    if (← read).admits line then send (← IO.getStderr) (line.text ++ "\n")

/-- When a file was last written, if it exists. -/
def written (path : String) : IO (Option IO.FS.SystemTime) := do
  match ← ((metadata path).toBaseIO : BaseIO (Except IO.Error IO.FS.Metadata)) with
  | .ok m => return some m.modified
  | .error _ => return none

/-- Runs the jobs of the files again whenever one of them was written. -/
partial def keepWatching (files : List String) (config : ProjectConfig) (call : InitializerCall)
    (seen : List (Option IO.FS.SystemTime)) : Terminal Unit := do
  IO.sleep 100
  let now ← files.mapM fun file => written file
  let changed := (seen.zip now).any fun (before, after) => after.isSome && before != after
  if changed then
    Machine.print "\n\nFile changed, rewriting...\n"
    replaceWatched files config call
  keepWatching files config call now

def run (arguments : List String) : Terminal UInt32 := do
  match ← runArguments arguments with
  | .exit code => return code.toUInt32
  | .watching files config call =>
    keepWatching files config call (← files.mapM fun file => written file)
    return 0

end Terminal

end PublicPath

/-- Runs the command line; `DYNPATH_LOG` names the least level of the log lines that are shown. -/
def main (arguments : List String) : IO UInt32 := do
  let filter := ((← IO.getEnv "DYNPATH_LOG").map PublicPath.LogFilter.ofName).getD .default
  PublicPath.Terminal.run arguments filter
