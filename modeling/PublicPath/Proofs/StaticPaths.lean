import PublicPath.Build.CallPlugin
import PublicPath.Proofs.Processing

/-!
# Static paths behind a build

A build without errors has replaced the assignment in every public path module that it showed to the
plugin. It shows the first module with a key and no other, so a chunk that shares its id with an
earlier one may keep a static path.
-/

namespace PublicPath.Proofs
open Text

/-- A compilation with the call as its only plugin, before any module is shown. -/
def begun (c : InitializerCall) (n : Nat) (entries : List ChunkEntry) : Compilation :=
  (Compilation.start n entries).addTap c.plugin.tap

/-- What a build with the call as its only plugin leaves behind. -/
def built (c : InitializerCall) (n : Nat) (entries : List ChunkEntry) : Compilation :=
  ((⟨[c.plugin], n⟩ : Compiler).run entries).2.1

/-- The target that is assigned to in the code of `m` is assigned the call in the code of `m'`. -/
def HoldsCall (c : InitializerCall) (m m' : RuntimeModule) : Prop :=
  ∃ a, Assignment.parse m.code = .ok a ∧ m'.code = c.assignTo a.target

/-! ### One module -/

section Module

variable (c : InitializerCall) (chunk : Chunk) {s : Showing} {m : RuntimeModule}

lemma next_other (h : s.module.kind ≠ .publicPath) :
    s.next chunk c.plugin.tap = { s with
      events := s.events ++
        [.log ⟨.debug, s!"Skipping {s.module.kind.title} in chunk {chunk.label}"⟩] } := by
  have hk : s.module.kind.isPublicPath = false := by simpa [ModuleKind.isPublicPath] using h
  simp [Showing.next, InitializerCall.plugin, Plugin.tap, InitializerCall.observe, hk]

lemma next_of_parse (h : s.module.kind = .publicPath) {a : Assignment}
    (ha : Assignment.parse s.module.code = .ok a) :
    s.next chunk c.plugin.tap = { s with
      module := { s.module with code := c.assignTo a.target }
      mutated := s.mutated ++ [chunk]
      events := s.events ++
        [.log ⟨.info, "Changing static publicPath for chunk: " ++ chunk.label⟩] } := by
  have hk : s.module.kind.isPublicPath = true := by simp [ModuleKind.isPublicPath, h]
  simp [Showing.next, InitializerCall.plugin, Plugin.tap, InitializerCall.observe, hk,
    InitializerCall.replace, ha, Except.map]

lemma next_of_parse_error (h : s.module.kind = .publicPath) {e : StatementError}
    (he : Assignment.parse s.module.code = .error e) :
    s.next chunk c.plugin.tap = { s with
      errors := s.errors ++ [⟨chunk, e⟩]
      events := s.events ++ [.report (ShapeError.diagnostic ⟨chunk, e⟩)] } := by
  have hk : s.module.kind.isPublicPath = true := by simp [ModuleKind.isPublicPath, h]
  simp [Showing.next, InitializerCall.plugin, Plugin.tap, InitializerCall.observe, hk,
    InitializerCall.replace, he, Except.map]

lemma showAll_other (h : m.kind ≠ .publicPath) :
    showAll [c.plugin.tap] chunk m =
      ⟨m, [], [], [.log ⟨.debug, s!"Skipping {m.kind.title} in chunk {chunk.label}"⟩]⟩ :=
  next_other c chunk (s := .start m) h

lemma showAll_of_parse (h : m.kind = .publicPath) {a : Assignment}
    (ha : Assignment.parse m.code = .ok a) :
    showAll [c.plugin.tap] chunk m = ⟨{ m with code := c.assignTo a.target }, [chunk], [],
      [.log ⟨.info, "Changing static publicPath for chunk: " ++ chunk.label⟩]⟩ :=
  next_of_parse c chunk (s := .start m) h ha

lemma showAll_of_parse_error (h : m.kind = .publicPath) {e : StatementError}
    (he : Assignment.parse m.code = .error e) :
    showAll [c.plugin.tap] chunk m =
      ⟨m, [], [⟨chunk, e⟩], [.report (ShapeError.diagnostic ⟨chunk, e⟩)]⟩ :=
  next_of_parse_error c chunk (s := .start m) h he

/-- The plugin leaves the kind of a module as it is. -/
lemma kind_showAll (m : RuntimeModule) : (showAll [c.plugin.tap] chunk m).module.kind = m.kind := by
  by_cases h : m.kind = .publicPath
  · cases hp : Assignment.parse m.code with
    | ok a => rw [showAll_of_parse c chunk h hp]
    | error e => rw [showAll_of_parse_error c chunk h hp]
  · rw [showAll_other c chunk h]

lemma holdsCall_of_errors_eq_nil (h : m.kind = .publicPath)
    (he : (showAll [c.plugin.tap] chunk m).errors = []) :
    HoldsCall c m (showAll [c.plugin.tap] chunk m).module := by
  cases hp : Assignment.parse m.code with
  | ok a =>
    rw [showAll_of_parse c chunk h hp]
    exact ⟨a, hp, rfl⟩
  | error e =>
    rw [showAll_of_parse_error c chunk h hp] at he
    cases he

end Module

/-! ### Whole builds -/

section Build

variable (c : InitializerCall) (n : Nat) (entries : List ChunkEntry) {place : Nat × Nat}

lemma built_eq : built c n entries = (begun c n entries).process.1 := rfl

lemma isDue_begun_iff : IsDue (begun c n entries) place ↔ IsFirst entries place :=
  isDue_iff_isFirst rfl

lemma moduleAt_built : moduleAt (built c n entries).entries place =
    (moduleAt entries place).map fun x =>
      (x.1, if IsFirst entries place then (showAll [c.plugin.tap] x.1 x.2).module else x.2) := by
  rw [built_eq, moduleAt_process]
  simp only [isDue_begun_iff]
  rfl

/-- A build without errors had no error at the first module with a key. -/
lemma errors_eq_nil_of_hasErrors (hok : (built c n entries).hasErrors = false)
    {x : Chunk × RuntimeModule} (hx : moduleAt entries place = some x)
    (hfirst : IsFirst entries place) : (showAll [c.plugin.tap] x.1 x.2).errors = [] := by
  have hnil : (built c n entries).errors = [] := by simpa [Compilation.hasErrors] using hok
  rw [built_eq, (progress_process _).errors] at hnil
  have hdue : x ∈ dueModules (begun c n entries) (begun c n entries).places :=
    mem_dueModules hx ((isDue_begun_iff c n entries).mpr hfirst)
  exact List.flatMap_eq_nil_iff.mp (List.append_eq_nil_iff.mp hnil).2 x hdue

lemma holdsCall_of_isFirst (hok : (built c n entries).hasErrors = false) {chunk : Chunk}
    {m : RuntimeModule} (hx : moduleAt entries place = some (chunk, m)) (hk : m.kind = .publicPath)
    (hfirst : IsFirst entries place) : HoldsCall c m (showAll [c.plugin.tap] chunk m).module :=
  holdsCall_of_errors_eq_nil c chunk hk (errors_eq_nil_of_hasErrors c n entries hok hx hfirst)

/-- In a build without errors a public path module holds the call exactly if it is the first module
with its key or held the call before. -/
theorem holdsCall_iff_isFirst (hok : (built c n entries).hasErrors = false) {chunk : Chunk}
    {m' : RuntimeModule} (hm : moduleAt (built c n entries).entries place = some (chunk, m'))
    (hk : m'.kind = .publicPath) :
    ∃ m, moduleAt entries place = some (chunk, m) ∧ m.kind = .publicPath ∧
      (HoldsCall c m m' ↔ IsFirst entries place ∨ HoldsCall c m m) := by
  rw [moduleAt_built] at hm
  obtain ⟨⟨chunk, m⟩, hx, h⟩ := Option.map_eq_some_iff.mp hm
  cases h
  by_cases hfirst : IsFirst entries place
  · rw [if_pos hfirst, kind_showAll] at hk
    refine ⟨m, hx, hk, ?_⟩
    rw [if_pos hfirst]
    simp [hfirst, holdsCall_of_isFirst c n entries hok hx hk hfirst]
  · rw [if_neg hfirst] at hk
    refine ⟨m, hx, hk, ?_⟩
    rw [if_neg hfirst]
    simp [hfirst]

end Build

/-- Two chunks with one id, each with a static path. -/
def sharedId : List ChunkEntry :=
  [⟨⟨0, some "a"⟩, [.publicPath "/"]⟩, ⟨⟨0, some "b"⟩, [.publicPath "/x"]⟩]

theorem holdsCall_iff_isFirst_sharedId :
    (built ⟨"setPath", "checkout"⟩ 0 sharedId).hasErrors = false ∧
      moduleAt (built ⟨"setPath", "checkout"⟩ 0 sharedId).entries (0, 0) =
        some (⟨0, some "a"⟩, ⟨.publicPath, "__webpack_require__.p = setPath('checkout');"⟩) ∧
      ∃ m, moduleAt sharedId (0, 0) = some (⟨0, some "a"⟩, m) ∧ m.kind = .publicPath ∧
        (HoldsCall ⟨"setPath", "checkout"⟩ m
            ⟨.publicPath, "__webpack_require__.p = setPath('checkout');"⟩ ↔
          IsFirst sharedId (0, 0) ∨ HoldsCall ⟨"setPath", "checkout"⟩ m m) := by
  have hok : (built ⟨"setPath", "checkout"⟩ 0 sharedId).hasErrors = false := by
    decide +kernel
  have hm : moduleAt (built ⟨"setPath", "checkout"⟩ 0 sharedId).entries (0, 0) =
      some (⟨0, some "a"⟩, ⟨.publicPath, "__webpack_require__.p = setPath('checkout');"⟩) := by
    decide +kernel
  exact ⟨hok, hm, holdsCall_iff_isFirst _ 0 sharedId hok hm rfl⟩

/-- The second of two chunks with one id keeps its static path, and the build reports nothing. -/
theorem static_path_of_sharedId :
    (built ⟨"setPath", "checkout"⟩ 0 sharedId).hasErrors = false ∧
      moduleAt sharedId (1, 0) = some (⟨0, some "b"⟩, .publicPath "/x") ∧
      moduleAt (built ⟨"setPath", "checkout"⟩ 0 sharedId).entries (1, 0) =
        some (⟨0, some "b"⟩, .publicPath "/x") ∧
      ¬ HoldsCall ⟨"setPath", "checkout"⟩ (.publicPath "/x") (.publicPath "/x") := by
  refine ⟨by decide +kernel, by decide +kernel, by decide +kernel, ?_⟩
  rintro ⟨a, ha, h⟩
  have hparse : Assignment.parse (RuntimeModule.publicPath "/x").code =
      .ok ⟨"__webpack_require__.p", "\"/x\"", ⟨0, 21⟩, ⟨24, 28⟩⟩ := by
    decide +kernel
  rw [hparse] at ha
  cases ha
  revert h
  decide +kernel

end PublicPath.Proofs
