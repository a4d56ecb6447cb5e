import PublicPath.Config.Project
import PublicPath.Proofs.SchemaViolations
import PublicPath.Proofs.SharedCompiler

/-!
# Supplied options

The options of a call are given as a value of their own or as a member of a project. Apart from
`null`, which stands for no call in a project, both are accepted or refused alike, and the compilers
that they lead to build the same.
-/

namespace PublicPath.Proofs

/-- A project that has some options and nothing else. -/
def projectWith (options : Json) : Json := .object [("rewrite", options)]

/-- A compiler behind some builds. -/
def behindBuilds (c : Compiler) (earlier : List (List ChunkEntry)) : Compiler :=
  earlier.foldl (fun c entries => (c.run entries).1) c

/-- The builds differ in nothing but their numbers. -/
structure SameBuild (a b : Compilation) : Prop where
  entries : a.entries = b.entries
  mutated : a.mutated = b.mutated
  errors : a.errors = b.errors
  render : a.render = b.render
  tapNames : a.tapNames = b.tapNames

/-- The compilers build the same, whatever they have built before. -/
def BuildAlike (c d : Compiler) : Prop :=
  ∀ (earlier earlier' : List (List ChunkEntry)) (entries : List ChunkEntry),
    SameBuild ((behindBuilds c earlier).run entries).2.1 ((behindBuilds d earlier').run entries).2.1

/-- The options are accepted as a call of their texts, by every compiler and in a project. -/
structure AcceptedAs (call : InitializerCall) (options : Json) : Prop where
  initializer : options.get? "initializer" = some (.string call.initializer)
  entryName : options.get? "entryName" = some (.string call.entryName)
  value : InitializerCall.ofJson options = .ok call
  register (c : Compiler) : c.registerOptions options = .ok (c.register call.plugin)
  project : ProjectConfig.ofJson (projectWith options) = .ok ⟨some call, none, true⟩
  build : ∃ ofProject ofOptions, ProjectConfig.compiler ⟨some call, none, true⟩ = .ok ofProject ∧
    Compiler.empty.registerOptions options = .ok ofOptions ∧ BuildAlike ofProject ofOptions

/-- The options are refused for some violations, by every compiler and in a project, whose message
holds the whole message of the options. -/
structure RefusedFor (violations : List SchemaViolation) (options : Json) : Prop where
  report : Report .initializerCall options violations
  ne_nil : violations ≠ []
  value : InitializerCall.ofJson options = .error violations
  register (c : Compiler) : c.registerOptions options = .error violations
  project : ProjectConfig.ofJson (projectWith options) = .error (.options violations)
  message : (ConfigError.mismatch (.options violations)).message =
    "Invalid JSON: " ++ (ConfigError.options violations).message

/-! ### Values -/

section Values

variable {options : Json}

lemma exists_text {name : String} (hkey : name ∈ keysOf options)
    (htext : ∀ x, options.get? name = some x → IsText x) :
    ∃ s, options.get? name = some (.string s) := by
  cases hx : options.get? name with
  | none =>
    cases options with
    | object members => exact absurd hkey (lookup_eq_none_iff.mp hx)
    | _ => cases hkey
  | some x =>
    obtain ⟨s, rfl⟩ := htext x hx
    exact ⟨s, rfl⟩

lemma ofJson_of_fits (h : Fits .initializerCall options) :
    ∃ call, InitializerCall.ofJson options = .ok call ∧
      options.get? "initializer" = some (.string call.initializer) ∧
      options.get? "entryName" = some (.string call.entryName) := by
  have htext : ∀ f ∈ Schema.initializerCall, ∃ s, options.get? f.name = some (.string s) := by
    intro f hf
    have hrequired : f.required = true := by
      revert f
      decide
    exact exists_text (h.required f hf hrequired) (h.isText f hf)
  obtain ⟨initializer, hinitializer⟩ := htext ⟨"initializer", .string, true⟩ (by decide)
  obtain ⟨entryName, hentryName⟩ := htext ⟨"entryName", .string, true⟩ (by decide)
  refine ⟨⟨initializer, entryName⟩, ?_, hinitializer, hentryName⟩
  rw [InitializerCall.ofJson, (violations_eq_nil_iff _ _).mpr h]
  simp only [InitializerCall.textOf, hinitializer, hentryName]

lemma ofJson_of_not_fits (h : ¬ Fits .initializerCall options) :
    InitializerCall.ofJson options = .error (Schema.initializerCall.violations options) := by
  rw [← violations_eq_nil_iff] at h
  unfold InitializerCall.ofJson
  split
  · exact absurd ‹_› h
  · rfl

/-- A project reads options other than `null` as they are read by themselves. -/
lemma ofJson_projectWith (h : options ≠ .null) :
    ProjectConfig.ofJson (projectWith options) =
      ((InitializerCall.ofJson options).mapError .options).map fun call =>
        ⟨some call, none, true⟩ := by
  have hproject : ProjectConfig.ofJson (projectWith options) =
      (ProjectConfig.readCall (some options)).map fun call => ⟨call, none, true⟩ := by
    cases hcall : ProjectConfig.readCall (some options) <;>
      simp [ProjectConfig.ofJson, projectWith, List.lookup_cons, ProjectConfig.readOutDir,
        ProjectConfig.readPretty, hcall, bind, Except.bind, pure, Except.pure, Except.map]
  have hcall : ProjectConfig.readCall (some options) =
      ((InitializerCall.ofJson options).mapError .options).map some := by
    unfold ProjectConfig.readCall
    split
    · cases ‹_›
    · exact absurd (Option.some.inj ‹_›) h
    · cases ‹some options = _›
      cases InitializerCall.ofJson options <;> rfl
  rw [hproject, hcall]
  cases InitializerCall.ofJson options <;> rfl

end Values

/-! ### Compilers -/

lemma behindBuilds_eq (c : Compiler) (earlier : List (List ChunkEntry)) :
    behindBuilds c earlier = { c with nextId := c.nextId + earlier.length } := by
  induction earlier generalizing c with
  | nil => rfl
  | cons entries earlier ih =>
    have hrun : (c.run entries).1 = { c with nextId := c.nextId + 1 } := rfl
    have hcount : c.nextId + 1 + earlier.length = c.nextId + (entries :: earlier).length := by
      rw [List.length_cons]
      omega
    rw [behindBuilds, List.foldl_cons, hrun, ← hcount]
    exact ih _

/-- A build on a compiler with one call is the one on a new compiler, under another number. -/
lemma run_behindBuilds (call : InitializerCall) (earlier : List (List ChunkEntry))
    (entries : List ChunkEntry) :
    ((behindBuilds (Compiler.empty.register call.plugin) earlier).run entries).2.1 =
      numbered earlier.length (alone [call] entries) := by
  have hplugins : (behindBuilds (Compiler.empty.register call.plugin) earlier).plugins =
      [call].map (·.plugin) := by
    rw [behindBuilds_eq]
    rfl
  have hid : (behindBuilds (Compiler.empty.register call.plugin) earlier).nextId =
      earlier.length := by
    rw [behindBuilds_eq]
    exact Nat.zero_add _
  change ((behindBuilds _ earlier).begin entries).2.1.process.1 = _
  rw [(begin_eq [call] entries _ hplugins).2, hid]
  exact midway_places [call] entries earlier.length

theorem buildAlike_register (call : InitializerCall) :
    BuildAlike (Compiler.empty.register call.plugin) (Compiler.empty.register call.plugin) := by
  intro earlier earlier' entries
  rw [run_behindBuilds, run_behindBuilds]
  exact ⟨rfl, rfl, rfl, rfl, rfl⟩

/-- Options other than `null` are accepted everywhere as one call, or refused everywhere for the
same violations. -/
theorem supplied_alike {options : Json} (h : options ≠ .null) :
    (∃ call, AcceptedAs call options) ∨ ∃ violations, RefusedFor violations options := by
  by_cases hfits : Fits .initializerCall options
  · obtain ⟨call, hvalue, hinitializer, hentryName⟩ := ofJson_of_fits hfits
    have hregister : ∀ c : Compiler, c.registerOptions options = .ok (c.register call.plugin) := by
      intro c
      rw [Compiler.registerOptions, hvalue]
      rfl
    refine .inl ⟨call, hinitializer, hentryName, hvalue, hregister, ?_, ?_⟩
    · rw [ofJson_projectWith h, hvalue]
      rfl
    · exact ⟨_, _, rfl, hregister .empty, buildAlike_register call⟩
  · have hvalue := ofJson_of_not_fits hfits
    refine .inr ⟨_, (violations_eq_iff _ _ _).mp rfl, mt (violations_eq_nil_iff _ _).mp hfits,
      hvalue, fun c => ?_, ?_, rfl⟩
    · rw [Compiler.registerOptions, hvalue]
      rfl
    · rw [ofJson_projectWith h, hvalue]
      rfl

def checkoutOptions : Json :=
  .object [("entryName", .string "checkout"), ("initializer", .string "setPath")]

theorem supplied_alike_checkout : checkoutOptions ≠ .null ∧
    ((∃ call, AcceptedAs call checkoutOptions) ∨
      ∃ violations, RefusedFor violations checkoutOptions) := by
  have h : checkoutOptions ≠ .null := by
    intro h
    cases h
  exact ⟨h, supplied_alike h⟩

end PublicPath.Proofs
