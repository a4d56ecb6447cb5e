import PublicPath.Proofs.StaticPaths

/-!
# The accounts of a build

A build with one initializer call keeps its chunks and the kinds of their modules. It replaces the
code of the public path modules that it meets first under their keys and leaves all other code as it
was, and it names each of these modules once: among the changed chunks and in the log, or among the
errors.
-/

namespace PublicPath.Proofs
open Text

def outline (entries : List ChunkEntry) : List (Chunk × List ModuleKind) :=
  entries.map fun e => (e.chunk, e.modules.map (·.kind))

/-- The modules that are the first with their key, in order, with their chunks. -/
def firstModules (entries : List ChunkEntry) : List (Chunk × RuntimeModule) :=
  entries.zipIdx.flatMap fun (e, i) =>
    (e.modules.zipIdx.filter fun (_, j) => IsFirst entries (i, j)).map fun (m, _) => (e.chunk, m)

def firstPaths (entries : List ChunkEntry) : List (Chunk × RuntimeModule) :=
  (firstModules entries).filter fun x => x.2.kind = .publicPath

/-- The chunks of those public path modules that are assignments. -/
def changedChunks (entries : List ChunkEntry) : List Chunk :=
  (firstPaths entries).filterMap fun x =>
    match Assignment.parse x.2.code with
    | .ok _ => some x.1
    | .error _ => none

/-- The errors of those public path modules that are not assignments. -/
def shapeErrors (entries : List ChunkEntry) : List ShapeError :=
  (firstPaths entries).filterMap fun x =>
    match Assignment.parse x.2.code with
    | .ok _ => none
    | .error cause => some ⟨x.1, cause⟩

def rewritten (c : InitializerCall) (code : String) : String :=
  match c.replace code with
  | .ok code' => code'
  | .error _ => code

/-- The code that a build leaves in the module at a place. -/
def codeAfter (c : InitializerCall) (entries : List ChunkEntry) (place : Nat × Nat)
    (m : RuntimeModule) : String :=
  if m.kind = .publicPath ∧ IsFirst entries place then rewritten c m.code else m.code

def changeLine (chunk : Chunk) : LogLine :=
  ⟨.info, "Changing static publicPath for chunk: " ++ chunk.label⟩

/-- What is told at the level of changes. -/
def infoLines (told : List BuildEvent) : List LogLine :=
  (told.filterMap BuildEvent.line?).filter (·.level = .info)

structure Accounts (c : InitializerCall) (entries : List ChunkEntry) (done : Compilation)
    (told : List BuildEvent) : Prop where
  outline : outline done.entries = outline entries
  code (place : Nat × Nat) : moduleAt done.entries place =
    (moduleAt entries place).map fun x => (x.1, { x.2 with code := codeAfter c entries place x.2 })
  mutated : done.mutated = changedChunks entries
  errors : done.errors = shapeErrors entries
  changes : infoLines told = (changedChunks entries).map changeLine

/-! ### Outlines -/

/-- What is kept of each module is the same if it is the same at each place. -/
lemma map_modules_eq_of_moduleAt {α : Type} (f : RuntimeModule → α)
    {entries entries' : List ChunkEntry} (hs : shape entries' = shape entries)
    (h : ∀ q, (moduleAt entries' q).map (fun x => f x.2) =
      (moduleAt entries q).map fun x => f x.2) :
    (entries'.map fun e => (e.chunk, e.modules.map f)) =
      entries.map fun e => (e.chunk, e.modules.map f) := by
  apply List.ext_getElem?
  intro i
  have hi : (shape entries')[i]? = (shape entries)[i]? := by rw [hs]
  simp only [shape, List.getElem?_map] at hi ⊢
  cases he' : entries'[i]? with
  | none =>
    cases he : entries[i]? with
    | none => rfl
    | some e => simp [he, he'] at hi
  | some e' =>
    cases he : entries[i]? with
    | none => simp [he, he'] at hi
    | some e =>
      simp only [he, he', Option.map_some, Option.some.injEq, Prod.mk.injEq] at hi ⊢
      refine ⟨hi.1, List.ext_getElem? fun j => ?_⟩
      have hj := h (i, j)
      simp only [moduleAt, he, he', Option.bind_some, Option.map_map] at hj
      rw [List.getElem?_map, List.getElem?_map]
      exact hj

lemma entries_eq_of_moduleAt {entries entries' : List ChunkEntry}
    (hs : shape entries' = shape entries) (h : ∀ q, moduleAt entries' q = moduleAt entries q) :
    entries' = entries := by
  have hmap := map_modules_eq_of_moduleAt id hs fun q => by rw [h]
  refine List.map_injective_iff.mpr ?_ hmap
  rintro ⟨chunk, modules⟩ ⟨chunk', modules'⟩ heq
  simpa using heq

/-! ### The modules that are shown -/

section Build

variable (c : InitializerCall) (n : Nat) (entries : List ChunkEntry)

lemma dueModules_eq_firstModules (b : Compilation) (h : b.visited = []) :
    dueModules b b.places = firstModules b.entries := by
  have hdue : ∀ p, IsDue b p ↔ IsFirst b.entries p := fun p => isDue_iff_isFirst h
  have hplaces := flatMap_places (c := b) fun p x => if IsFirst b.entries p then [x] else []
  rw [← List.flatMap_singleton' (dueModules b b.places), flatMap_dueModules_eq]
  simp only [hdue, hplaces, firstModules]
  apply List.flatMap_congr
  rintro ⟨e, i⟩ -
  dsimp only
  induction e.modules.zipIdx with
  | nil => rfl
  | cons x xs ih => by_cases hx : IsFirst b.entries (i, x.2) <;> simp [hx, ih]

lemma dueModules_begun :
    dueModules (begun c n entries) (begun c n entries).places = firstModules entries :=
  dueModules_eq_firstModules (begun c n entries) rfl

/-- What a build gathers is gathered from the first public path modules alone, if it takes nothing
from other modules. -/
lemma flatMap_dueModules {α : Type} (f : Showing → List α) {g : Chunk × RuntimeModule → Option α}
    (hok : ∀ chunk m a, Assignment.parse m.code = .ok a →
      f ⟨{ m with code := c.assignTo a.target }, [chunk], [], [.log (changeLine chunk)]⟩ =
        (g (chunk, m)).toList)
    (herror : ∀ chunk m cause, Assignment.parse m.code = .error cause →
      f ⟨m, [], [⟨chunk, cause⟩], [.report (ShapeError.diagnostic ⟨chunk, cause⟩)]⟩ =
        (g (chunk, m)).toList)
    (hother : ∀ m line, line.level = .debug → f ⟨m, [], [], [.log line]⟩ = []) :
    ((dueModules (begun c n entries) (begun c n entries).places).flatMap fun x =>
      f (showing (begun c n entries) x)) = (firstPaths entries).filterMap g := by
  rw [dueModules_begun, firstPaths, List.filterMap_filter, List.filterMap_eq_flatMap_toList]
  congr 1
  funext ⟨chunk, m⟩
  change f (showAll [c.plugin.tap] chunk m) = _
  by_cases hk : m.kind = .publicPath
  · rw [if_pos (by simpa using hk)]
    cases hp : Assignment.parse m.code with
    | ok a =>
      rw [showAll_of_parse c chunk hk hp]
      exact hok chunk m a hp
    | error cause =>
      rw [showAll_of_parse_error c chunk hk hp]
      exact herror chunk m cause hp
  · rw [if_neg (by simpa using hk), showAll_other c chunk hk]
    exact hother m _ rfl

/-! ### What is left and what is told -/

lemma module_showAll (chunk : Chunk) (m : RuntimeModule) :
    (showAll [c.plugin.tap] chunk m).module =
      { m with code := if m.kind = .publicPath then rewritten c m.code else m.code } := by
  by_cases hk : m.kind = .publicPath
  · cases hp : Assignment.parse m.code with
    | ok a =>
      rw [showAll_of_parse c chunk hk hp, if_pos hk, rewritten, InitializerCall.replace, hp]
      rfl
    | error cause =>
      rw [showAll_of_parse_error c chunk hk hp, if_pos hk, rewritten, InitializerCall.replace, hp]
      rfl
  · simp [showAll_other c chunk hk, hk]

lemma moduleAt_built_eq (place : Nat × Nat) : moduleAt (built c n entries).entries place =
    (moduleAt entries place).map fun x =>
      (x.1, { x.2 with code := codeAfter c entries place x.2 }) := by
  rw [moduleAt_built]
  congr 1
  funext ⟨chunk, m⟩
  by_cases hfirst : IsFirst entries place
  · simp [codeAfter, hfirst, module_showAll]
  · simp [codeAfter, hfirst]

lemma outline_built : outline (built c n entries).entries = outline entries := by
  refine map_modules_eq_of_moduleAt RuntimeModule.kind
    (progress_process (begun c n entries)).shape fun q => ?_
  rw [moduleAt_built_eq, Option.map_map]
  rfl

lemma mutated_built : (built c n entries).mutated = changedChunks entries := by
  have h := flatMap_dueModules c n entries Showing.mutated (g := fun x =>
    match Assignment.parse x.2.code with
    | .ok _ => some x.1
    | .error _ => none) (by simp +contextual) (by simp +contextual) (by simp)
  rw [built_eq, (progress_process _).mutated, h]
  rfl

lemma errors_built : (built c n entries).errors = shapeErrors entries := by
  have h := flatMap_dueModules c n entries Showing.errors (g := fun x =>
    match Assignment.parse x.2.code with
    | .ok _ => none
    | .error cause => some ⟨x.1, cause⟩) (by simp +contextual) (by simp +contextual) (by simp)
  rw [built_eq, (progress_process _).errors, h]
  rfl

lemma infoLines_flatMap {α : Type} (xs : List α) (f : α → List BuildEvent) :
    infoLines (xs.flatMap f) = xs.flatMap fun x => infoLines (f x) := by
  simp only [infoLines, List.filterMap_flatMap, List.filter_flatMap]

lemma infoLines_process : infoLines (begun c n entries).process.2 =
    (changedChunks entries).map changeLine := by
  have h := flatMap_dueModules c n entries (fun s => infoLines s.events) (g := fun x =>
    match Assignment.parse x.2.code with
    | .ok _ => some (changeLine x.1)
    | .error _ => none)
    (by simp +contextual [infoLines, BuildEvent.line?, changeLine])
    (by simp +contextual [infoLines, BuildEvent.line?])
    (by simp +contextual [infoLines, BuildEvent.line?])
  have hvisit : ∀ x told, infoLines (.log (visitLine x) :: told) = infoLines told := by
    simp [infoLines, BuildEvent.line?, visitLine]
  have hmap : (changedChunks entries).map changeLine = (firstPaths entries).filterMap fun x =>
      match Assignment.parse x.2.code with
      | .ok _ => some (changeLine x.1)
      | .error _ => none := by
    rw [changedChunks, List.map_filterMap]
    congr 1
    funext x
    cases Assignment.parse x.2.code <;> rfl
  rw [(progress_process _).told, hmap, ← h, infoLines_flatMap]
  simp only [hvisit]

/-- A build changes what it must and nothing else, and it accounts for every public path module that
it meets first. -/
theorem run_accounts : Accounts c entries ((⟨[c.plugin], n⟩ : Compiler).run entries).2.1
    ((⟨[c.plugin], n⟩ : Compiler).run entries).2.2 where
  outline := outline_built c n entries
  code := moduleAt_built_eq c n entries
  mutated := mutated_built c n entries
  errors := errors_built c n entries
  changes := infoLines_process c n entries

end Build

end PublicPath.Proofs
