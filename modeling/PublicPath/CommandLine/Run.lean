import PublicPath.CommandLine.Jobs
import PublicPath.Config.Document
import PublicPath.Endpoint.Reader
import PublicPath.Endpoint.Resolve
import PublicPath.Script

/-!
# Running commands

A command ends with an exit code, or goes on watching its files.
-/

namespace PublicPath

open Machine

inductive Ending where
  | exit (code : UInt8)
  /-- The jobs are to run again whenever one of the files changes. -/
  | watching (files : List String) (config : ProjectConfig) (call : InitializerCall)

def versionText : String := "dynpath 0.1.0\n"

def usageText : String :=
  "Usage: dynpath <COMMAND>\n\nCommands:\n" ++
  "  rewrite <FILE>...  Replace the static public path of generated modules\n" ++
  "  resolve <ENTRY>    Print the base path of an entry\n" ++
  "  init               Write a configuration file and the initializer script\n" ++
  "  runtime            Print the initializer script\n"

section

variable {m : Type → Type} [Monad m] [Machine m]

def fail (failure : Failure) : m Ending := do
  complain failure.report
  return .exit 1

/-! ## Watching -/

/-- One run while files are watched, which no failure ends. -/
def replaceWatched (files : List String) (config : ProjectConfig) (call : InitializerCall) :
    m Unit := do
  match ← replaceIn files config call with
  | .ok true => return ()
  | .ok false =>
    Machine.log ⟨.warn, "Some files could not be rewritten; waiting for changes"⟩
  | .error failure => Machine.log ⟨.warn, s!"Rewrite failed: {failure.line}"⟩

/-- The directory in which a file is watched. -/
def watchedDirectory (file : String) : String :=
  match Path.parent? file with
  | none | some "" => "."
  | some parent => parent

/-- The first directory that cannot be watched, as there is none. -/
def checkWatched : List String → m (Option Failure)
  | [] => return none
  | file :: more => do
    let directory := watchedDirectory file
    match ← status directory with
    | .error e =>
      return some (.ofMessage (e.message ++ " about [" ++ Text.shownPath directory ++ "]"))
    | .ok _ => checkWatched more

def watch (files : List String) (config : ProjectConfig) (call : InitializerCall) :
    m Ending := do
  print "Watching for changes... (Press Ctrl+C to stop)\n"
  print "\nInitial rewrite:\n"
  replaceWatched files config call
  match ← checkWatched files with
  | some failure => fail failure
  | none => return .watching files config call

/-! ## Commands -/

def runReplace (a : ReplaceArguments) : m Ending := do
  match ← loadConfig a with
  | .error failure => fail failure
  | .ok (config, call) =>
    if a.watch then watch a.files config call
    else match ← replaceIn a.files config call with
      | .error failure => fail failure
      | .ok allWritten => return .exit (if allWritten then 0 else 1)

/-- The runtime map and the environment of a source. -/
def loadRuntime : Option MapSource → m (Except Failure RuntimeConfig)
  | none =>
    return .error (.ofMessage "Either --globals or both --map and --environment are required")
  | some (.globals file) => do
    match ← readText file with
    | .error e => return .error ((Failure.ofFault e).within s!"Failed to read {file}")
    | .ok content =>
      match Json.parse content with
      | .error fault => return .error (.ofMessage (fault.message content.toList))
      | .ok globals =>
        match RuntimeConfig.ofGlobals globals with
        | .error e => return .error (.ofMessage e.message)
        | .ok config => return .ok config
  | some (.map file environment) => do
    let loading (e : ConfigError) : Failure :=
      (Failure.ofConfig e).within s!"Failed to load runtime map {file}"
    match ← readText file with
    | .error e => return .error (loading (.file e))
    | .ok content =>
      match RuntimeMap.parse content with
      | .error fault =>
        return .error (loading (.unreadable fault.kind (fault.message content.toList)))
      | .ok map => return .ok ⟨map, environment⟩

def runResolve (entry : String) (source : Option MapSource) : m Ending := do
  match ← loadRuntime source with
  | .error failure => fail failure
  | .ok config =>
    Machine.log ⟨.debug, s!"Resolving '{entry}' in environment '{config.environment}'"⟩
    match config.resolve entry with
    | .error e => fail (.ofMessage e.message)
    | .ok path =>
      print (path ++ "\n")
      return .exit 0

/-- The file that the initializer script is written to. -/
def scriptFile : String := "set-path.js"

def runInit : m Ending := do
  match ← writeText defaultProject ProjectConfig.sample.toYaml with
  | .error e => fail (.ofConfig (.file e))
  | .ok () =>
    print s!"Created {defaultProject}\n"
    match ← writeText scriptFile (Script.function Script.defaultInitializer) with
    | .error e => fail (.ofFault e)
    | .ok () =>
      print s!"Created {scriptFile}\n"
      print s!"\nInclude {scriptFile} in the host page before any bundle loads.\n"
      print "Run 'dynpath rewrite <FILE>' on a generated publicPath module.\n"
      return .exit 0

def Command.run : Command → m Ending
  | replace a => runReplace a
  | resolve entry source => runResolve entry source
  | init => runInit
  | script name => do
    print (Script.function name)
    return .exit 0
  | module => do
    print Script.module
    return .exit 0
  | version => do
    print versionText
    return .exit 0

/-- Runs the command of some arguments. -/
def runArguments (arguments : List String) : m Ending := do
  match Command.parse arguments with
  | .ok command => command.run
  | .error .help => do
    print usageText
    return .exit 0
  | .error .usage => do
    complain usageText
    return .exit 2

end

end PublicPath
