import PublicPath.Proofs.BuildAccounts
import PublicPath.Proofs.Replacement
import PublicPath.Proofs.SharedCompiler

/-!
# Several calls on one compiler

Where several initializer calls are registered, each of them reads what the one before it has
written. The last one decides what a module holds, and each of them is accounted for. This needs
that the earlier initializers are targets, since otherwise their calls may not be read again.
-/

namespace PublicPath.Proofs
open Text Statement

/-- What `k` calls contribute to the changed chunks at a module. -/
def changesOf (k : Nat) (chunk : Chunk) (m : RuntimeModule) : List Chunk :=
  if m.kind = .publicPath then
    match Assignment.parse m.code with
    | .ok _ => List.replicate k chunk
    | .error _ => []
  else []

/-- What `k` calls contribute to the errors at a module. -/
def failuresOf (k : Nat) (chunk : Chunk) (m : RuntimeModule) : List ShapeError :=
  if m.kind = .publicPath then
    match Assignment.parse m.code with
    | .ok _ => []
    | .error cause => List.replicate k ⟨chunk, cause⟩
  else []

/-- What `k` calls leave behind, the last of which is `last`. -/
structure LastPrevails (k : Nat) (last : InitializerCall) (entries : List ChunkEntry)
    (done : Compilation) : Prop where
  outline : outline done.entries = outline entries
  code (place : Nat × Nat) : moduleAt done.entries place =
    (moduleAt entries place).map fun x =>
      (x.1, { x.2 with
        code := if x.2.kind = .publicPath then rewritten last x.2.code else x.2.code })
  /-- The last call alone would have left the same. -/
  alone (n : Nat) : done.entries = (built last n entries).entries
  mutated : done.mutated = entries.flatMap fun e => e.modules.flatMap (changesOf k e.chunk)
  errors : done.errors = entries.flatMap fun e => e.modules.flatMap (failuresOf k e.chunk)

/-- What a compiler leaves behind that numbers the build `n` and has the calls registered in order. -/
def builtBy (calls : List InitializerCall) (n : Nat) (entries : List ChunkEntry) : Compilation :=
  (({ equipped calls with nextId := n } : Compiler).run entries).2.1

def tapsOf (calls : List InitializerCall) : List Tap := calls.map fun call => call.plugin.tap

/-! ### One module -/

section Module

variable (calls earlier : List InitializerCall) (last : InitializerCall) (chunk : Chunk)
  {s : Showing}

lemma foldl_other (h : s.module.kind ≠ .publicPath) :
    let t := (tapsOf calls).foldl (Showing.next chunk) s
    t.module = s.module ∧ t.mutated = s.mutated ∧ t.errors = s.errors := by
  induction calls generalizing s with
  | nil => exact ⟨rfl, rfl, rfl⟩
  | cons call calls ih =>
    rw [tapsOf, List.map_cons, List.foldl_cons, next_other call chunk h]
    exact ih h

lemma foldl_of_parse_error (h : s.module.kind = .publicPath) {e : StatementError}
    (he : Assignment.parse s.module.code = .error e) :
    let t := (tapsOf calls).foldl (Showing.next chunk) s
    t.module = s.module ∧ t.mutated = s.mutated ∧
      t.errors = s.errors ++ List.replicate calls.length ⟨chunk, e⟩ := by
  induction calls generalizing s with
  | nil => exact ⟨rfl, rfl, by simp [tapsOf]⟩
  | cons call calls ih =>
    rw [tapsOf, List.map_cons, List.foldl_cons, next_of_parse_error call chunk h he]
    obtain ⟨hmodule, hmutated, herrors⟩ := ih (s := { s with
      errors := s.errors ++ [⟨chunk, e⟩]
      events := s.events ++ [.report (ShapeError.diagnostic ⟨chunk, e⟩)] }) h he
    refine ⟨hmodule, hmutated, herrors.trans ?_⟩
    rw [List.length_cons, List.replicate_succ, List.append_assoc]
    rfl

/-- Every call finds the target that the first one found. -/
lemma foldl_of_parse (hinit : ∀ c ∈ earlier, IsTarget c.initializer.toList)
    (h : s.module.kind = .publicPath) {a : Assignment}
    (ha : Assignment.parse s.module.code = .ok a) :
    let t := (tapsOf (earlier ++ [last])).foldl (Showing.next chunk) s
    t.module = { s.module with code := last.assignTo a.target } ∧
      t.mutated = s.mutated ++ List.replicate (earlier.length + 1) chunk ∧
      t.errors = s.errors := by
  induction earlier generalizing s a with
  | nil =>
    rw [tapsOf, List.nil_append, List.map_singleton, List.foldl_cons, List.foldl_nil,
      next_of_parse last chunk h ha]
    exact ⟨rfl, rfl, rfl⟩
  | cons call earlier ih =>
    obtain ⟨hcall, hearlier⟩ := List.forall_mem_cons.mp hinit
    obtain ⟨b, hb, htarget⟩ := parse_assignTo_target call hcall ha
    rw [tapsOf, List.cons_append, List.map_cons, List.foldl_cons, next_of_parse call chunk h ha]
    obtain ⟨hmodule, hmutated, herrors⟩ := ih hearlier (s := { s with
      module := { s.module with code := call.assignTo a.target }
      mutated := s.mutated ++ [chunk]
      events := s.events ++
        [.log ⟨.info, "Changing static publicPath for chunk: " ++ chunk.label⟩] }) h hb
    rw [htarget] at hmodule
    refine ⟨hmodule, hmutated.trans ?_, herrors⟩
    rw [List.length_cons, List.replicate_succ, List.append_assoc]
    rfl

/-- What several calls make of a module. -/
lemma showAll_calls (hinit : ∀ c ∈ earlier, IsTarget c.initializer.toList) (m : RuntimeModule) :
    let t := showAll (tapsOf (earlier ++ [last])) chunk m
    t.module = { m with code := if m.kind = .publicPath then rewritten last m.code else m.code } ∧
      t.mutated = changesOf (earlier.length + 1) chunk m ∧
      t.errors = failuresOf (earlier.length + 1) chunk m := by
  by_cases hk : m.kind = .publicPath
  · cases hp : Assignment.parse m.code with
    | ok a =>
      obtain ⟨hmodule, hmutated, herrors⟩ :=
        foldl_of_parse earlier last chunk hinit (s := .start m) hk hp
      have hcode : rewritten last m.code = last.assignTo a.target := by
        rw [rewritten, InitializerCall.replace, hp]
        rfl
      rw [changesOf, failuresOf, if_pos hk, if_pos hk, if_pos hk, hp, hcode]
      exact ⟨hmodule, hmutated, herrors⟩
    | error e =>
      obtain ⟨hmodule, hmutated, herrors⟩ :=
        foldl_of_parse_error (earlier ++ [last]) chunk (s := .start m) hk hp
      have hcode : rewritten last m.code = m.code := by
        rw [rewritten, InitializerCall.replace, hp]
        rfl
      rw [List.length_append, List.length_singleton] at herrors
      rw [changesOf, failuresOf, if_pos hk, if_pos hk, if_pos hk, hp, hcode]
      exact ⟨hmodule, hmutated, herrors⟩
  · rw [changesOf, failuresOf, if_neg hk, if_neg hk, if_neg hk]
    exact foldl_other (earlier ++ [last]) chunk (s := .start m) hk

end Module

/-! ### Whole builds -/

section Due

variable {c : Compilation}

/-- Where no two chunks share an id, a first processing shows all modules. -/
lemma isDue_of_nodup (hvisited : c.visited = []) (hids : (c.entries.map (·.chunk.id)).Nodup)
    {place : Nat × Nat} {x : Chunk × RuntimeModule} (hx : moduleAt c.entries place = some x) :
    IsDue c place :=
  (isDue_iff_isFirst hvisited).mpr (isFirst_of_nodup hids hx)

lemma flatMap_zipIdx {α β : Type} (xs : List α) (f : α → List β) :
    (xs.zipIdx.flatMap fun x => f x.1) = xs.flatMap f := by
  rw [← List.flatMap_map Prod.fst f, List.zipIdx_map_fst]

lemma flatMap_dueModules_of_nodup (hvisited : c.visited = [])
    (hids : (c.entries.map (·.chunk.id)).Nodup) {α : Type} (f : Chunk × RuntimeModule → List α) :
    (dueModules c c.places).flatMap f =
      c.entries.flatMap fun e => e.modules.flatMap fun m => f (e.chunk, m) := by
  have hall : ∀ p, ((moduleAt c.entries p).elim [] fun x => if IsDue c p then f x else []) =
      (moduleAt c.entries p).elim [] f := by
    intro p
    cases hx : moduleAt c.entries p with
    | none => rfl
    | some x => simp [isDue_of_nodup hvisited hids hx]
  rw [flatMap_dueModules_eq]
  simp only [hall, flatMap_places (fun _ => f)]
  rw [← flatMap_zipIdx c.entries]
  congr 1
  funext x
  exact flatMap_zipIdx x.1.modules fun m => f (x.1.chunk, m)

lemma moduleAt_process_of_nodup (hvisited : c.visited = [])
    (hids : (c.entries.map (·.chunk.id)).Nodup) (place : Nat × Nat) :
    moduleAt c.process.1.entries place =
      (moduleAt c.entries place).map fun x => (x.1, (showing c x).module) := by
  rw [moduleAt_process]
  cases hx : moduleAt c.entries place with
  | none => rfl
  | some x => simp [isDue_of_nodup hvisited hids hx]

end Due

section Build

variable (calls earlier : List InitializerCall) (last : InitializerCall) (n : Nat)
  {entries : List ChunkEntry}

lemma builtBy_eq (entries : List ChunkEntry) :
    builtBy calls n entries = (readied calls entries n).process.1 := by
  have hbegin := (begin_eq calls entries { equipped calls with nextId := n }
    (by rw [equipped_eq])).2
  change (Compiler.begin _ entries).2.1.process.1 = _
  rw [hbegin]

lemma shape_builtBy (entries : List ChunkEntry) :
    shape (builtBy calls n entries).entries = shape entries := by
  rw [builtBy_eq, (progress_process _).shape]
  rfl

lemma showing_readied (x : Chunk × RuntimeModule) :
    showing (readied calls entries n) x = showAll (tapsOf calls) x.1 x.2 := rfl

variable (hids : (entries.map (·.chunk.id)).Nodup)
  (hinit : ∀ c ∈ earlier, IsTarget c.initializer.toList)
include hids

lemma mutated_builtBy : (builtBy calls n entries).mutated = entries.flatMap fun e =>
    e.modules.flatMap fun m => (showAll (tapsOf calls) e.chunk m).mutated := by
  rw [builtBy_eq, (progress_process _).mutated, flatMap_dueModules_of_nodup rfl hids]
  simp only [showing_readied]
  rfl

lemma errors_builtBy : (builtBy calls n entries).errors = entries.flatMap fun e =>
    e.modules.flatMap fun m => (showAll (tapsOf calls) e.chunk m).errors := by
  rw [builtBy_eq, (progress_process _).errors, flatMap_dueModules_of_nodup rfl hids]
  simp only [showing_readied]
  rfl

include hinit

lemma moduleAt_builtBy (place : Nat × Nat) :
    moduleAt (builtBy (earlier ++ [last]) n entries).entries place =
      (moduleAt entries place).map fun x => (x.1, { x.2 with
        code := if x.2.kind = .publicPath then rewritten last x.2.code else x.2.code }) := by
  rw [builtBy_eq, moduleAt_process_of_nodup rfl hids]
  change (moduleAt entries place).map _ = _
  congr 1
  funext x
  rw [showing_readied, (showAll_calls earlier last x.1 hinit x.2).1]

/-- The last call alone leaves the same. -/
lemma entries_builtBy (k : Nat) :
    (builtBy (earlier ++ [last]) n entries).entries = (built last k entries).entries := by
  apply entries_eq_of_moduleAt
  · rw [shape_builtBy, built_eq, (progress_process _).shape]
    rfl
  · intro place
    rw [moduleAt_builtBy earlier last n hids hinit, moduleAt_built_eq]
    cases hx : moduleAt entries place with
    | none => rfl
    | some x => simp [codeAfter, isFirst_of_nodup hids hx]

end Build

/-- If several calls are registered on a compiler, the last one decides what the modules hold, and
each of them is accounted for. -/
theorem builtBy_lastPrevails (earlier : List InitializerCall) (last : InitializerCall)
    (hinit : ∀ c ∈ earlier, IsTarget c.initializer.toList) (n : Nat) {entries : List ChunkEntry}
    (hids : (entries.map (·.chunk.id)).Nodup) :
    LastPrevails (earlier.length + 1) last entries (builtBy (earlier ++ [last]) n entries) := by
  constructor
  · refine map_modules_eq_of_moduleAt RuntimeModule.kind (shape_builtBy _ n entries) fun q => ?_
    rw [moduleAt_builtBy earlier last n hids hinit, Option.map_map]
    rfl
  · exact moduleAt_builtBy earlier last n hids hinit
  · exact entries_builtBy earlier last n hids hinit
  · rw [mutated_builtBy _ n hids]
    simp only [(showAll_calls earlier last _ hinit _).2.1]
  · rw [errors_builtBy _ n hids]
    simp only [(showAll_calls earlier last _ hinit _).2.2]

/-- A static path, a module of another kind, and in the second chunk a statement without a value. -/
def mixedModules : List ChunkEntry :=
  [⟨⟨0, some "a"⟩, [.publicPath "/", ⟨.global, "g = this;"⟩]⟩, ⟨⟨1, none⟩, [⟨.publicPath, "x"⟩]⟩]

theorem builtBy_lastPrevails_mixedModules :
    (∀ c ∈ [⟨"app['x]'].set", "it's"⟩, ⟨"g", "e"⟩],
        IsTarget (InitializerCall.initializer c).toList) ∧
      (mixedModules.map (·.chunk.id)).Nodup ∧
      LastPrevails 3 ⟨"setPath", "checkout"⟩ mixedModules
        (builtBy [⟨"app['x]'].set", "it's"⟩, ⟨"g", "e"⟩, ⟨"setPath", "checkout"⟩] 0
          mixedModules) := by
  have hfirst : scanTarget 0 "app['x]'].set".toList = .ok ("app['x]'].set".toList, []) := by
    decide +kernel
  have hsecond : scanTarget 0 "g".toList = .ok ("g".toList, []) := by
    decide +kernel
  have hinit : ∀ c ∈ [⟨"app['x]'].set", "it's"⟩, ⟨"g", "e"⟩],
      IsTarget (InitializerCall.initializer c).toList := by
    simp only [List.forall_mem_cons, List.not_mem_nil, false_imp_iff, implies_true, and_true]
    exact ⟨(isTarget_of_scanTarget hfirst).1, (isTarget_of_scanTarget hsecond).1⟩
  have hids : (mixedModules.map (·.chunk.id)).Nodup := by decide
  exact ⟨hinit, hids, builtBy_lastPrevails _ ⟨"setPath", "checkout"⟩ hinit 0 hids⟩

end PublicPath.Proofs
