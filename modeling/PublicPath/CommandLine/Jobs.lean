import PublicPath.Build.CallPlugin
import PublicPath.CommandLine.Arguments
import PublicPath.CommandLine.Failure
import PublicPath.CommandLine.Machine
import PublicPath.Config.Document
import PublicPath.Text.Basic

/-!
# Jobs

Every input file is the public path module of a chunk of its own and is built alone. Its output is
written only if the build had no error, and nothing is written unless all outputs differ.
-/

namespace PublicPath

open Machine

/-! ## Outputs -/

/-- The chunk of a file, named after the file without its extension. -/
def chunkName (file : String) : String := (Path.fileStem? file).getD "main"

/-- Beside the input, or in the output directory. -/
def outputPath (outDir : Option String) (file : String) : String :=
  let name := chunkName file ++ ".rewritten.js"
  match outDir with
  | some directory => Path.join directory name
  | none => Path.withFileName file name

/-- One input file and where it goes. -/
structure Job where
  index : Nat
  input : String
  output : String
deriving DecidableEq, Repr

/-- The jobs of some files, unless two of them would write to the same path. -/
def jobsOf (outDir : Option String) (earlier : List Job) :
    List String → Except Failure (List Job)
  | [] => .ok earlier
  | file :: more =>
    let output := outputPath outDir file
    match earlier.find? fun j => Path.components j.output = Path.components output with
    | some j =>
      .error (.ofMessage s!"{j.input} and {file} would both be written to {output}")
    | none => jobsOf outDir (earlier ++ [⟨earlier.length, file, output⟩]) more

/-! ## Running -/

inductive JobOutcome where
  | written
  /-- The build had errors; nothing was written. -/
  | refused
  | failed (cause : Failure)
deriving DecidableEq, Repr

/-- The builds so far. -/
structure Progress where
  compiler : Compiler
  handler : Handler

section

variable {m : Type → Type} [Monad m] [Machine m]

/-- Tells the events of a build, and keeps its diagnostics. -/
def tell (outlet : Outlet) (h : Handler) : List BuildEvent → m Handler
  | [] => return h
  | .log line :: more => do
    Machine.log line
    tell outlet h more
  | .report d :: more => do
    complain (outlet.print d)
    tell outlet (h.report d) more

/-- Writes the code of a job, with the directories on the way. -/
def Job.write (j : Job) (code : String) : m JobOutcome := do
  match ← ensureParent j.output with
  | .error e => return .failed (.ofFault e)
  | .ok () =>
    match ← writeText j.output (code ++ "\n") with
    | .error e => return .failed (.ofFault e)
    | .ok () =>
      let size := Text.byteLength code.toList + 1
      Machine.log ⟨.debug, s!"Wrote {size} byte(s) to {Text.shownPath j.output}"⟩
      return .written

/-- Reads, builds and writes one file. -/
def Job.run (outlet : Outlet) (p : Progress) (j : Job) : m (Progress × JobOutcome) := do
  match ← readText j.input with
  | .error e => return (p, .failed ((Failure.ofFault e).within s!"Failed to read {j.input}"))
  | .ok source =>
    let chunk : Chunk := ⟨j.index, some (chunkName j.input)⟩
    let (compiler, built, events) := p.compiler.run [⟨chunk, [⟨.publicPath, source⟩]⟩]
    let handler ← tell outlet p.handler events
    let p : Progress := ⟨compiler, handler⟩
    if built.hasErrors then return (p, .refused)
    else
      let code := (((built.modulesOf j.index).getD []).head?.map (·.code)).getD ""
      return (p, ← j.write code)

def runJobs (outlet : Outlet) (p : Progress) :
    List Job → m (Progress × List (Job × JobOutcome))
  | [] => return (p, [])
  | j :: more => do
    let (p, outcome) ← j.run outlet p
    let (p, outcomes) ← runJobs outlet p more
    return (p, (j, outcome) :: outcomes)

/-- Tells what became of a job. -/
def JobOutcome.tell (j : Job) : JobOutcome → m Unit
  | .written => Machine.log ⟨.info, s!"Generated: {j.output}"⟩
  | .refused => return ()
  | .failed cause => complain s!"Error rewriting {j.input}: {cause.line}\n"

def tellOutcomes : List (Job × JobOutcome) → m Unit
  | [] => return ()
  | (j, outcome) :: more => do
    outcome.tell j
    tellOutcomes more

/-- Replaces the public paths in files; the answer is whether all outputs were written. -/
def replaceIn (files : List String) (config : ProjectConfig) (call : InitializerCall) :
    m (Except Failure Bool) := do
  Machine.log ⟨.info, s!"Rewriting {files.length} file(s)..."⟩
  match jobsOf config.outDir [] files with
  | .error failure => return .error failure
  | .ok jobs =>
    let start : Progress := ⟨Compiler.empty.register call.plugin, .empty⟩
    let (p, outcomes) ← runJobs (.console config.pretty) start jobs
    tellOutcomes outcomes
    let allWritten := outcomes.all fun (_, outcome) => outcome = .written
    if allWritten then Machine.log ⟨.info, "Rewrite completed successfully!"⟩
    else Machine.log ⟨.warn, s!"Rewrite failed ({p.handler.errorCount} error(s) reported)"⟩
    return .ok allWritten

/-! ## Configuration -/

/-- The configuration file that is used when none is given. -/
def defaultProject : String := "dynpath.yaml"

def loadProject (path context : String) : m (Except Failure ProjectConfig) := do
  match ProjectConfig.ofFile path (← readText path) with
  | .ok p => return .ok p
  | .error e => return .error ((Failure.ofConfig e).within context)

/-- The project of the file that is given, of the one in the working directory, or the default. -/
def baseProject (project : Option String) : m (Except Failure ProjectConfig) := do
  match project with
  | some path => loadProject path s!"Failed to load config file {path}"
  | none =>
    match ← status defaultProject with
    | .ok _ => loadProject defaultProject s!"Failed to load {defaultProject}"
    | .error _ => return .ok .default

def ReplaceArguments.overrides (a : ReplaceArguments) : Overrides :=
  ⟨a.initializer, a.entryName, a.outDir, if a.plain then some false else none⟩

/-- The project under the arguments, with its call. -/
def loadConfig (a : ReplaceArguments) : m (Except Failure (ProjectConfig × InitializerCall)) := do
  match ← baseProject a.project with
  | .error failure => return .error failure
  | .ok base =>
    match base.merge a.overrides with
    | (_, .error violations) => return .error (.ofConfig (.options violations))
    | (config, .ok ()) =>
      match config.requiredCall with
      | .error violations => return .error (.ofConfig (.options violations))
      | .ok call => return .ok (config, call)

end

end PublicPath
