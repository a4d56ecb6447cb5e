import PublicPath.Proofs.OutputPaths
import PublicPath.Proofs.Overlays

/-!
# Loaded projects

The project of a command is that of a file, or the default, under the arguments of the command line.
A command that finds no such project, or whose outputs would meet, ends before it runs a job.
-/

namespace PublicPath.Proofs
open Machine

/-- The text of a file. -/
def fileText (f : Files) (path : String) : Except FileFault String :=
  match f.read path with
  | .error e => .error e
  | .ok content =>
    match String.fromUTF8? content with
    | some text => .ok text
    | none => .error .notText

/-- The configuration file of a command, if there is one. -/
def projectFile? (f : Files) (project : Option String) : Option String :=
  match project with
  | some path => some path
  | none =>
    match f.status defaultProject with
    | .ok _ => some defaultProject
    | .error _ => none

/-- The project that the arguments of a command are laid over. -/
def startProject (f : Files) (project : Option String) : Except ConfigError ProjectConfig :=
  match projectFile? f project with
  | some path => ProjectConfig.ofFile path (fileText f path)
  | none => .ok .default

/-- The call of a project under some arguments, if they have both of its texts together. -/
def effectiveCall (a : ReplaceArguments) (base : ProjectConfig) : Option InitializerCall :=
  match a.initializer <|> base.call.map (·.initializer),
    a.entryName <|> base.call.map (·.entryName) with
  | some initializer, some entryName => some ⟨initializer, entryName⟩
  | _, _ => none

/-- The output directory of a project under some arguments. -/
def effectiveOutDir (a : ReplaceArguments) (base : ProjectConfig) : Option String :=
  a.outDir <|> base.outDir

def effectiveConfig (a : ReplaceArguments) (base : ProjectConfig) (call : InitializerCall) :
    ProjectConfig :=
  ⟨some call, effectiveOutDir a base, if a.plain then false else base.pretty⟩

/-- Why a command runs no job. -/
inductive CannotStart (f : Files) (a : ReplaceArguments) : Prop where
  /-- The configuration file cannot be read or does not fit. -/
  | project (path : String) (e : ConfigError) (hfile : projectFile? f a.project = some path)
      (h : ProjectConfig.ofFile path (fileText f path) = .error e)
  /-- The initializer or the name of the entry is missing. -/
  | options (base : ProjectConfig) (h : startProject f a.project = .ok base)
      (hcall : effectiveCall a base = none)
  /-- Two outputs have equal paths. -/
  | outputs (base : ProjectConfig) (h : startProject f a.project = .ok base)
      (hkeys : ¬ (outputKeys (effectiveOutDir a base) a.files).Nodup)

/-! ### Overlays -/

section Overlays

variable (a : ReplaceArguments) (base : ProjectConfig)

/-- The arguments give a complete call, or the project has none afterwards. -/
lemma merge_overrides :
    (∃ call, effectiveCall a base = some call ∧
      base.merge a.overrides = (effectiveConfig a base call, .ok ())) ∨
    effectiveCall a base = none ∧ ((∃ violations, (base.merge a.overrides).2 = .error violations) ∨
      (base.merge a.overrides).2 = .ok () ∧ (base.merge a.overrides).1.call = none) := by
  obtain ⟨files, project, initializer, entryName, outDir, plain, watch⟩ := a
  obtain ⟨call, baseDir, pretty⟩ := base
  cases initializer <;> cases entryName <;> cases call <;> cases plain <;>
    simp [ProjectConfig.merge, ReplaceArguments.overrides, effectiveCall, effectiveConfig,
      effectiveOutDir, ofJson_overlaidMembers]

end Overlays

/-! ### Loading -/

section Loading

variable {f : Files} {a : ReplaceArguments} {base : ProjectConfig} {call : InitializerCall}

lemma readText_run (f : Files) (path : String) :
    (readText path : StateM Files _).run f = (fileText f path, f) := by
  rw [readText, run_bind_eq (read_run f path)]
  unfold fileText
  cases f.read path with
  | error e => rfl
  | ok content =>
    dsimp only
    cases String.fromUTF8? content <;> rfl

lemma loadProject_run (f : Files) (path context : String) :
    (loadProject path context : StateM Files _).run f =
      (match ProjectConfig.ofFile path (fileText f path) with
        | .ok p => .ok p
        | .error e => .error ((Failure.ofConfig e).within context), f) := by
  rw [loadProject, run_bind_eq (readText_run f path)]
  cases ProjectConfig.ofFile path (fileText f path) <;> rfl

lemma baseProject_run (f : Files) (project : Option String) :
    (∃ base, startProject f project = .ok base ∧
      (baseProject project : StateM Files _).run f = (.ok base, f)) ∨
    ∃ e failure, startProject f project = .error e ∧
      (baseProject project : StateM Files _).run f = (.error failure, f) := by
  have hload (path context : String) :
      (∃ base, ProjectConfig.ofFile path (fileText f path) = .ok base ∧
        (loadProject path context : StateM Files _).run f = (.ok base, f)) ∨
      ∃ e failure, ProjectConfig.ofFile path (fileText f path) = .error e ∧
        (loadProject path context : StateM Files _).run f = (.error failure, f) := by
    rw [loadProject_run]
    cases ProjectConfig.ofFile path (fileText f path) with
    | ok p => exact Or.inl ⟨p, rfl, rfl⟩
    | error e => exact Or.inr ⟨e, _, rfl, rfl⟩
  unfold startProject projectFile? baseProject
  cases project with
  | some path => exact hload path _
  | none =>
    dsimp only
    rw [run_bind_eq (status_run f defaultProject)]
    cases f.status defaultProject with
    | ok directory => exact hload defaultProject _
    | error e => exact Or.inl ⟨_, rfl, rfl⟩

lemma baseProject_of_ok (h : startProject f a.project = .ok base) :
    (baseProject a.project : StateM Files _).run f = (.ok base, f) := by
  rcases baseProject_run f a.project with ⟨base', hbase, hrun⟩ | ⟨e, _, herror, -⟩
  · rw [hrun, Except.ok.inj (hbase.symm.trans h)]
  · exact absurd (herror.symm.trans h) (by simp)

lemma loadConfig_run (hbase : (baseProject a.project : StateM Files _).run f = (.ok base, f)) :
    (loadConfig a : StateM Files _).run f =
      (match base.merge a.overrides with
        | (_, .error violations) => .error (.ofConfig (.options violations))
        | (config, .ok ()) =>
          match config.requiredCall with
          | .error violations => .error (.ofConfig (.options violations))
          | .ok call => .ok (config, call), f) := by
  rw [loadConfig, run_bind_eq hbase]
  dsimp only
  obtain ⟨config, merged⟩ := base.merge a.overrides
  cases merged with
  | error violations => rfl
  | ok =>
    dsimp only
    cases config.requiredCall <;> rfl

/-- A project with a complete call is loaded, with the arguments laid over it. -/
lemma loadConfig_of_call (hbase : startProject f a.project = .ok base)
    (hcall : effectiveCall a base = some call) :
    (loadConfig a : StateM Files _).run f = (.ok (effectiveConfig a base call, call), f) := by
  rw [loadConfig_run (baseProject_of_ok hbase)]
  rcases merge_overrides a base with ⟨call', hcall', hmerge⟩ | ⟨hnone, -⟩
  · cases hcall.symm.trans hcall'
    rw [hmerge]
    rfl
  · exact absurd (hnone.symm.trans hcall) (by simp)

lemma loadConfig_of_error {e : ConfigError} (h : startProject f a.project = .error e) :
    ∃ failure, (loadConfig a : StateM Files _).run f = (.error failure, f) := by
  rcases baseProject_run f a.project with ⟨base, hbase, -⟩ | ⟨_, failure, -, hrun⟩
  · exact absurd (hbase.symm.trans h) (by simp)
  · refine ⟨failure, ?_⟩
    rw [loadConfig, run_bind_eq hrun]
    rfl

lemma loadConfig_of_none (hbase : startProject f a.project = .ok base)
    (hcall : effectiveCall a base = none) :
    ∃ failure, (loadConfig a : StateM Files _).run f = (.error failure, f) := by
  rw [loadConfig_run (baseProject_of_ok hbase)]
  rcases merge_overrides a base with ⟨call, hsome, -⟩ | ⟨-, h⟩
  · exact absurd (hsome.symm.trans hcall) (by simp)
  · generalize base.merge a.overrides = merged at h
    obtain ⟨config, outcome⟩ := merged
    rcases h with ⟨violations, rfl⟩ | ⟨rfl, hnone⟩
    · exact ⟨_, rfl⟩
    · dsimp only at hnone
      simp only [ProjectConfig.requiredCall, hnone]
      exact ⟨_, rfl⟩

end Loading

/-! ### Commands that cannot start -/

section Starting

variable {f : Files} {a : ReplaceArguments} {base : ProjectConfig} {call : InitializerCall}

lemma runReplace_of_error {failure : Failure}
    (h : (loadConfig a : StateM Files _).run f = (.error failure, f)) :
    (runReplace a : StateM Files _).run f = (.exit 1, f) := by
  rw [runReplace, run_bind_eq h]
  rfl

lemma runReplace_of_ok {config : ProjectConfig} (hwatch : a.watch = false)
    (h : (loadConfig a : StateM Files _).run f = (.ok (config, call), f)) :
    (runReplace a : StateM Files _).run f =
      match (replaceIn a.files config call : StateM Files _).run f with
      | (.error _, g) => (.exit 1, g)
      | (.ok allWritten, g) => (.exit (if allWritten then 0 else 1), g) := by
  rw [runReplace, run_bind_eq h, hwatch]
  change StateT.run (replaceIn a.files config call >>= _) f = _
  rw [StateT.run_bind]
  generalize (replaceIn a.files config call : StateM Files _).run f = ended
  obtain ⟨answer, g⟩ := ended
  cases answer <;> rfl

lemma runArguments_of_parse {arguments : List String}
    (hparse : Command.parse arguments = .ok (.replace a)) (s : Session) :
    (runArguments arguments : StateM Session _).run s =
      (runReplace a : StateM Session _).run s := by
  rw [runArguments, hparse]
  rfl

/-- A command that cannot start leaves the file system as it was and fails. -/
theorem cannotStart_changesNothing {arguments : List String}
    (hparse : Command.parse arguments = .ok (.replace a)) (hwatch : a.watch = false)
    (s : Session) (h : CannotStart s.files a) :
    ((runArguments arguments : StateM Session _).run s).1 = .exit 1 ∧
      ((runArguments arguments : StateM Session _).run s).2.files = s.files := by
  have hquiet : (runReplace a : StateM Files _).run s.files = (.exit 1, s.files) := by
    cases h with
    | project path e hfile herror =>
      have hstart : startProject s.files a.project = .error e := by
        rw [startProject, hfile]
        exact herror
      obtain ⟨failure, hload⟩ := loadConfig_of_error hstart
      exact runReplace_of_error hload
    | options base hbase hcall =>
      obtain ⟨failure, hload⟩ := loadConfig_of_none hbase hcall
      exact runReplace_of_error hload
    | outputs base hbase hkeys =>
      cases hcall : effectiveCall a base with
      | none =>
        obtain ⟨failure, hload⟩ := loadConfig_of_none hbase hcall
        exact runReplace_of_error hload
      | some call =>
        obtain ⟨failure, -, hjobs⟩ := jobsOf_of_not_nodup hkeys
        rw [runReplace_of_ok hwatch (loadConfig_of_call hbase hcall), replaceIn_of_error _ _ hjobs]
  have hmirrors := mirrors_runReplace hwatch s
  rw [hquiet] at hmirrors
  rw [runArguments_of_parse hparse]
  exact hmirrors

/-- Two files of one name, and a project that brings them together. -/
def sameNames : Files :=
  ⟨[], [(["p.json"], .file ("\x7b\"rewrite\": \x7b\"initializer\": \"setPath\", " ++
      "\"entryName\": \"checkout\"\x7d, \"outDir\": \"dist\"\x7d").toUTF8),
    (["a"], .directory), (["a", "main.js"], .file "x = 1;".toUTF8),
    (["b"], .directory), (["b", "main.js"], .file "y = 2;".toUTF8)]⟩

theorem cannotStart_changesNothing_sameNames :
    ((runArguments ["rewrite", "--project", "p.json", "a/main.js", "b/main.js"] :
        StateM Session _).run (.ofFiles sameNames)).1 = .exit 1 ∧
      ((runArguments ["rewrite", "--project", "p.json", "a/main.js", "b/main.js"] :
        StateM Session _).run (.ofFiles sameNames)).2.files = sameNames := by
  have hparse : Command.parse ["rewrite", "--project", "p.json", "a/main.js", "b/main.js"] =
      .ok (.replace ⟨["a/main.js", "b/main.js"], some "p.json", none, none, none, false, false⟩) := by
    decide +kernel
  have hstart : startProject sameNames (some "p.json") =
      .ok ⟨some ⟨"setPath", "checkout"⟩, some "dist", true⟩ := by
    decide +kernel
  exact cannotStart_changesNothing hparse rfl (.ofFiles sameNames)
    (.outputs _ hstart (by decide +kernel))

end Starting

end PublicPath.Proofs
