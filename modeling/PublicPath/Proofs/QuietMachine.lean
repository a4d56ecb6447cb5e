import Mathlib.Tactic.Common
import PublicPath.CommandLine.Run
import PublicPath.CommandLine.Session

/-!
# The quiet machine

A file system alone is a machine, too: one that keeps nothing of what a command tells. A command does
the same to the files of a session as it does to the files of a quiet machine, and it comes to the
same answer, so that what it does to files can be studied there.
-/

namespace PublicPath.Proofs
open Machine

/-- Changes the file system, unless that is refused. -/
def changeFiles (change : Files → Except FileFault Files) : StateM Files (Except FileFault Unit) := do
  match change (← get) with
  | .ok f =>
    set f
    return .ok ()
  | .error e => return .error e

instance : Machine (StateM Files) where
  read path := return (← get).read path
  write path content := changeFiles fun f => f.write path content
  makeDirectory path := changeFiles fun f => f.makeDirectory path
  status path := return (← get).status path
  print _ := return ()
  complain _ := return ()
  log _ := return ()

lemma run_bind_eq {σ α β : Type} {x : StateM σ α} {a : α} {s s' : σ} (h : x.run s = (a, s'))
    (k : α → StateM σ β) : (x >>= k).run s = (k a).run s' := by
  rw [StateT.run_bind, h]
  rfl

section Effects

variable (f : Files) (path : String)

lemma read_run : (read path : StateM Files _).run f = (f.read path, f) := rfl

lemma status_run : (status path : StateM Files _).run f = (f.status path, f) := rfl

lemma log_run (line : LogLine) : (Machine.log line : StateM Files _).run f = ((), f) := rfl

end Effects

/-- The same answer and the same files on both machines. -/
def Mirrors {α : Type} (x : StateM Session α) (y : StateM Files α) : Prop :=
  ∀ s : Session, (x.run s).1 = (y.run s.files).1 ∧ (x.run s).2.files = (y.run s.files).2

section Rules

variable {α β : Type}

lemma Mirrors.pure (a : α) : Mirrors (pure a) (pure a) := fun _ => ⟨rfl, rfl⟩

lemma Mirrors.bind {x : StateM Session α} {y : StateM Files α} {k : α → StateM Session β}
    {l : α → StateM Files β} (hx : Mirrors x y) (hk : ∀ a, Mirrors (k a) (l a)) :
    Mirrors (x >>= k) (y >>= l) := by
  intro s
  obtain ⟨ha, hs⟩ := hx s
  change ((k (x.run s).1).run (x.run s).2).1 = ((l (y.run s.files).1).run (y.run s.files).2).1 ∧
    ((k (x.run s).1).run (x.run s).2).2.files = ((l (y.run s.files).1).run (y.run s.files).2).2
  rw [← ha, ← hs]
  exact hk (x.run s).1 (x.run s).2

end Rules

/-! ### What a machine does -/

section Operations

variable (path : String)

lemma mirrors_read : Mirrors (read path) (read path) := fun _ => ⟨rfl, rfl⟩

lemma mirrors_status : Mirrors (status path) (status path) := fun _ => ⟨rfl, rfl⟩

lemma mirrors_log (line : LogLine) : Mirrors (Machine.log line) (Machine.log line) :=
  fun _ => ⟨rfl, rfl⟩

lemma mirrors_complain (text : String) : Mirrors (complain text) (complain text) :=
  fun _ => ⟨rfl, rfl⟩

lemma mirrors_change (change : Files → Except FileFault Files) :
    Mirrors (Session.change change) (changeFiles change) := by
  intro s
  simp only [Session.change, changeFiles, StateT.run_bind, StateT.run_get, pure_bind]
  cases change s.files <;> exact ⟨rfl, rfl⟩

lemma mirrors_write (content : ByteArray) : Mirrors (write path content) (write path content) :=
  mirrors_change _

lemma mirrors_makeDirectory : Mirrors (makeDirectory path) (makeDirectory path) := mirrors_change _

lemma mirrors_readText : Mirrors (readText path) (readText path) := by
  refine Mirrors.bind (mirrors_read path) fun answer => ?_
  cases answer with
  | error e => exact Mirrors.pure _
  | ok content =>
    dsimp only
    cases String.fromUTF8? content <;> exact Mirrors.pure _

lemma mirrors_writeText (text : String) : Mirrors (writeText path text) (writeText path text) :=
  mirrors_write path _

lemma mirrors_isDirectory : Mirrors (isDirectory path) (isDirectory path) := by
  refine Mirrors.bind (mirrors_status path) fun answer => ?_
  cases answer <;> exact Mirrors.pure _

lemma mirrors_ensureDirectory : Mirrors (ensureDirectory path) (ensureDirectory path) := by
  refine Mirrors.bind (mirrors_makeDirectory path) fun answer => ?_
  cases answer with
  | ok => exact Mirrors.pure _
  | error e =>
    refine Mirrors.bind (mirrors_isDirectory path) fun there => ?_
    cases there <;> exact Mirrors.pure _

lemma mirrors_ensureDirectories (fuel : Nat) :
    Mirrors (ensureDirectories fuel path) (ensureDirectories fuel path) := by
  induction fuel generalizing path with
  | zero => exact mirrors_ensureDirectory path
  | succ fuel ih =>
    refine Mirrors.bind (mirrors_ensureDirectory path) fun answer => ?_
    split
    · split
      · exact Mirrors.pure _
      · exact Mirrors.pure _
      · rename_i parent _ _
        refine Mirrors.bind (ih parent) fun made => ?_
        cases made with
        | error e => exact Mirrors.pure _
        | ok => exact mirrors_ensureDirectory path
    · exact Mirrors.pure _

lemma mirrors_ensureParent : Mirrors (ensureParent path) (ensureParent path) := by
  unfold ensureParent
  split
  · exact Mirrors.pure _
  · exact Mirrors.pure _
  · exact mirrors_ensureDirectories _ _

end Operations

/-! ### Jobs -/

section Jobs

lemma mirrors_tell (outlet : Outlet) (h : Handler) (told : List BuildEvent) :
    Mirrors (tell outlet h told) (tell outlet h told) := by
  induction told generalizing h with
  | nil => exact Mirrors.pure _
  | cons event told ih =>
    cases event with
    | log line => exact Mirrors.bind (mirrors_log line) fun _ => ih h
    | report d => exact Mirrors.bind (mirrors_complain _) fun _ => ih (h.report d)

lemma mirrors_jobWrite (j : Job) (code : String) : Mirrors (j.write code) (j.write code) := by
  refine Mirrors.bind (mirrors_ensureParent _) fun made => ?_
  cases made with
  | error e => exact Mirrors.pure _
  | ok =>
    refine Mirrors.bind (mirrors_writeText _ _) fun written => ?_
    cases written with
    | error e => exact Mirrors.pure _
    | ok => exact Mirrors.bind (mirrors_log _) fun _ => Mirrors.pure _

lemma mirrors_jobRun (outlet : Outlet) (p : PublicPath.Progress) (j : Job) :
    Mirrors (j.run outlet p) (j.run outlet p) := by
  refine Mirrors.bind (mirrors_readText _) fun answer => ?_
  cases answer with
  | error e => exact Mirrors.pure _
  | ok source =>
    refine Mirrors.bind (mirrors_tell _ _ _) fun handler => ?_
    split
    · exact Mirrors.pure _
    · exact Mirrors.bind (mirrors_jobWrite _ _) fun _ => Mirrors.pure _

lemma mirrors_runJobs (outlet : Outlet) (p : PublicPath.Progress) (jobs : List Job) :
    Mirrors (runJobs outlet p jobs) (runJobs outlet p jobs) := by
  induction jobs generalizing p with
  | nil => exact Mirrors.pure _
  | cons j jobs ih =>
    exact Mirrors.bind (mirrors_jobRun outlet p j) fun r =>
      Mirrors.bind (ih r.1) fun _ => Mirrors.pure _

lemma mirrors_tellOutcomes (outcomes : List (Job × JobOutcome)) :
    Mirrors (tellOutcomes outcomes) (tellOutcomes outcomes) := by
  induction outcomes with
  | nil => exact Mirrors.pure _
  | cons x outcomes ih =>
    obtain ⟨j, outcome⟩ := x
    refine Mirrors.bind ?_ fun _ => ih
    cases outcome with
    | written => exact mirrors_log _
    | refused => exact Mirrors.pure _
    | failed cause => exact mirrors_complain _

lemma mirrors_replaceIn (files : List String) (config : ProjectConfig) (call : InitializerCall) :
    Mirrors (replaceIn files config call) (replaceIn files config call) := by
  refine Mirrors.bind (mirrors_log _) fun _ => ?_
  cases jobsOf config.outDir [] files with
  | error failure => exact Mirrors.pure _
  | ok jobs =>
    refine Mirrors.bind (mirrors_runJobs _ _ _) fun r => Mirrors.bind (mirrors_tellOutcomes _) fun _ => ?_
    dsimp only
    split
    · exact Mirrors.bind (mirrors_log _) fun _ => Mirrors.pure _
    · exact Mirrors.bind (mirrors_log _) fun _ => Mirrors.pure _

lemma mirrors_loadProject (path context : String) :
    Mirrors (loadProject path context) (loadProject path context) := by
  refine Mirrors.bind (mirrors_readText path) fun content => ?_
  cases ProjectConfig.ofFile path content <;> exact Mirrors.pure _

lemma mirrors_loadConfig (a : ReplaceArguments) : Mirrors (loadConfig a) (loadConfig a) := by
  have hbase : Mirrors (baseProject a.project) (baseProject a.project) := by
    cases a.project with
    | some path => exact mirrors_loadProject _ _
    | none =>
      refine Mirrors.bind (mirrors_status _) fun there => ?_
      cases there with
      | ok => exact mirrors_loadProject _ _
      | error e => exact Mirrors.pure _
  refine Mirrors.bind hbase fun base => ?_
  cases base with
  | error failure => exact Mirrors.pure _
  | ok base =>
    dsimp only
    split
    · exact Mirrors.pure _
    · split <;> exact Mirrors.pure _

lemma mirrors_fail (failure : Failure) : Mirrors (fail failure) (fail failure) :=
  Mirrors.bind (mirrors_complain _) fun _ => Mirrors.pure _

/-- Only a command that watches files may go on. -/
lemma mirrors_runReplace {a : ReplaceArguments} (h : a.watch = false) :
    Mirrors (runReplace a) (runReplace a) := by
  refine Mirrors.bind (mirrors_loadConfig a) fun loaded => ?_
  cases loaded with
  | error failure => exact mirrors_fail failure
  | ok x =>
    dsimp only
    rw [h]
    refine Mirrors.bind (mirrors_replaceIn _ _ _) fun ended => ?_
    cases ended with
    | error failure => exact mirrors_fail failure
    | ok allWritten => exact Mirrors.pure _

end Jobs

end PublicPath.Proofs
