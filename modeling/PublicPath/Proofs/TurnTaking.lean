import Mathlib.Data.List.Basic
import Mathlib.Logic.Function.Basic
import Mathlib.Tactic.Common
import PublicPath.Build.Compiler

/-!
# Taking turns

Several builds share a compiler and a handler, and take turns. In a turn a build takes a number and
begins, or it shows one module to its taps, or it reports one of the diagnostics that came of it. A
build that takes all its turns in a row is a run of the compiler.
-/

namespace PublicPath.Proofs

def diagnosticsOf (told : List BuildEvent) : List Diagnostic := told.filterMap BuildEvent.diagnostic?

/-- A handler that was given what a build reports. -/
def heard (h : Handler) (told : List BuildEvent) : Handler :=
  (diagnosticsOf told).foldl Handler.report h

inductive Build where
  | waiting (entries : List ChunkEntry)
  /-- The places that are left, and the diagnostics that are not reported yet. -/
  | working (c : Compilation) (left : List (Nat × Nat)) (pending : List Diagnostic)

structure Pool (n : Nat) where
  compiler : Compiler
  builds : Fin n → Build
  /-- The builds that began, in this order. -/
  started : List (Fin n)
  handler : Handler

namespace Pool

variable {n : Nat}

def start (compiler : Compiler) (inputs : Fin n → List ChunkEntry) : Pool n :=
  ⟨compiler, fun i => .waiting (inputs i), [], .empty⟩

-- Builds share the numbers and the handler and nothing else that changes; no turn touches both.
def turn (p : Pool n) (i : Fin n) : Pool n :=
  match p.builds i with
  | .waiting entries =>
    let (compiler, c, told) := p.compiler.begin entries
    { p with
      compiler := compiler
      builds := Function.update p.builds i (.working c c.places (diagnosticsOf told))
      started := p.started ++ [i] }
  | .working c left (d :: pending) =>
    { p with
      builds := Function.update p.builds i (.working c left pending)
      handler := p.handler.report d }
  | .working c (place :: left) [] =>
    let (c, told) := c.visit place
    { p with builds := Function.update p.builds i (.working c left (diagnosticsOf told)) }
  | .working _ [] [] => p

def follow (p : Pool n) (schedule : List (Fin n)) : Pool n := schedule.foldl turn p

end Pool

/-! ### What a build reports -/

section Events

@[simp] lemma diagnosticsOf_nil : diagnosticsOf [] = [] := rfl

@[simp] lemma diagnosticsOf_log (line : LogLine) (told : List BuildEvent) :
    diagnosticsOf (.log line :: told) = diagnosticsOf told := rfl

@[simp] lemma diagnosticsOf_report (d : Diagnostic) (told : List BuildEvent) :
    diagnosticsOf (.report d :: told) = d :: diagnosticsOf told := rfl

@[simp] lemma diagnosticsOf_append (told later : List BuildEvent) :
    diagnosticsOf (told ++ later) = diagnosticsOf told ++ diagnosticsOf later :=
  List.filterMap_append

@[simp] lemma diagnosticsOf_map_log (lines : List LogLine) :
    diagnosticsOf (lines.map .log) = [] := by
  simp [diagnosticsOf, List.filterMap_map, BuildEvent.diagnostic?]

lemma diagnostics_heard (h : Handler) (told : List BuildEvent) :
    (heard h told).diagnostics = h.diagnostics ++ diagnosticsOf told := by
  unfold heard
  induction diagnosticsOf told generalizing h with
  | nil => simp
  | cons d ds ih => simp [ih, Handler.report]

lemma diagnosticsOf_next (chunk : Chunk) {s : Showing} (tap : Tap)
    (h : diagnosticsOf s.events = s.errors.map ShapeError.diagnostic) :
    diagnosticsOf (s.next chunk tap).events = (s.next chunk tap).errors.map ShapeError.diagnostic := by
  unfold Showing.next
  dsimp only
  split <;> simp [h]

lemma diagnosticsOf_foldl (chunk : Chunk) (taps : List Tap) {s : Showing}
    (h : diagnosticsOf s.events = s.errors.map ShapeError.diagnostic) :
    diagnosticsOf (taps.foldl (Showing.next chunk) s).events =
      (taps.foldl (Showing.next chunk) s).errors.map ShapeError.diagnostic := by
  induction taps generalizing s with
  | nil => exact h
  | cons tap taps ih => exact ih (diagnosticsOf_next chunk tap h)

/-- What is reported of a module are its errors. -/
lemma diagnosticsOf_showAll (taps : List Tap) (chunk : Chunk) (m : RuntimeModule) :
    diagnosticsOf (showAll taps chunk m).events =
      (showAll taps chunk m).errors.map ShapeError.diagnostic :=
  diagnosticsOf_foldl chunk taps rfl

lemma diagnosticsOf_attach (plugins : List Plugin) (c : Compilation) :
    diagnosticsOf (Compiler.attach plugins c).2 = [] := by
  induction plugins generalizing c with
  | nil => rfl
  | cons p plugins ih => simp [Compiler.attach, ih]

lemma attach_eq (plugins : List Plugin) (c : Compilation) :
    (Compiler.attach plugins c).1 = { c with taps := c.taps ++ plugins.map Plugin.tap } := by
  induction plugins generalizing c with
  | nil => simp [Compiler.attach]
  | cons p plugins ih => simp [Compiler.attach, ih, Compilation.addTap]

variable (c : Compilation)

lemma errors_visit (place : Nat × Nat) : (c.visit place).1.errors.map ShapeError.diagnostic =
    c.errors.map ShapeError.diagnostic ++ diagnosticsOf (c.visit place).2 := by
  unfold Compilation.visit
  split
  · simp
  · split
    · simp
    · split
      · simp
      · simp [diagnosticsOf_showAll]

lemma errors_visitAll (ps : List (Nat × Nat)) :
    (c.visitAll ps).1.errors.map ShapeError.diagnostic =
      c.errors.map ShapeError.diagnostic ++ diagnosticsOf (c.visitAll ps).2 := by
  induction ps generalizing c with
  | nil => simp [Compilation.visitAll]
  | cons p ps ih => simp [Compilation.visitAll, ih, errors_visit]

lemma visitAll_append (ps qs : List (Nat × Nat)) :
    (c.visitAll (ps ++ qs)).1 = ((c.visitAll ps).1.visitAll qs).1 := by
  induction ps generalizing c with
  | nil => rfl
  | cons p ps ih => simp [Compilation.visitAll, ih]

end Events

/-! ### One turn -/

namespace Pool

variable {n : Nat} {p : Pool n} {i : Fin n} {c : Compilation} {left : List (Nat × Nat)}

lemma turn_waiting {entries : List ChunkEntry} (hb : p.builds i = .waiting entries) :
    p.turn i = ⟨(p.compiler.begin entries).1, Function.update p.builds i
      (.working (p.compiler.begin entries).2.1 (p.compiler.begin entries).2.1.places []),
        p.started ++ [i], p.handler⟩ := by
  have hnone : diagnosticsOf (p.compiler.begin entries).2.2 = [] := diagnosticsOf_attach _ _
  simp [turn, hb, hnone]

lemma turn_pending {d : Diagnostic} {pending : List Diagnostic}
    (hb : p.builds i = .working c left (d :: pending)) :
    p.turn i = ⟨p.compiler, Function.update p.builds i (.working c left pending), p.started,
      p.handler.report d⟩ := by
  simp [turn, hb]

lemma turn_place {place : Nat × Nat} (hb : p.builds i = .working c (place :: left) []) :
    p.turn i = ⟨p.compiler, Function.update p.builds i (.working (c.visit place).1 left
      (diagnosticsOf (c.visit place).2)), p.started, p.handler⟩ := by
  simp [turn, hb]

lemma turn_done (hb : p.builds i = .working c [] []) : p.turn i = p := by
  simp [turn, hb]

end Pool

/-! ### Rows of turns -/

section Rows

variable {n : Nat} {i : Fin n} {c : Compilation} {left : List (Nat × Nat)}

def Pool.moved (p : Pool n) (i : Fin n) (c : Compilation) (left : List (Nat × Nat))
    (said : List Diagnostic) : Pool n :=
  { p with
    builds := Function.update p.builds i (.working c left [])
    handler := ⟨p.handler.diagnostics ++ said⟩ }

lemma follow_pending {p : Pool n} {pending : List Diagnostic}
    (hb : p.builds i = .working c left pending) :
    p.follow (List.replicate pending.length i) = p.moved i c left pending := by
  induction pending generalizing p with
  | nil =>
    rw [Pool.moved, List.append_nil, ← hb, Function.update_eq_self]
    rfl
  | cons d pending ih =>
    rw [List.length_cons, List.replicate_succ, Pool.follow, List.foldl_cons, Pool.turn_pending hb]
    refine (ih (Function.update_self ..)).trans ?_
    simp [Pool.moved, Handler.report]

lemma follow_left {p : Pool n} (hb : p.builds i = .working c left []) :
    p.follow (List.replicate (left.length + (diagnosticsOf (c.visitAll left).2).length) i) =
      p.moved i (c.visitAll left).1 [] (diagnosticsOf (c.visitAll left).2) := by
  induction left generalizing c p with
  | nil => exact follow_pending hb
  | cons place left ih =>
    have hlength : (place :: left).length + (diagnosticsOf (c.visitAll (place :: left)).2).length =
        1 + (diagnosticsOf (c.visit place).2).length +
          (left.length + (diagnosticsOf ((c.visit place).1.visitAll left).2).length) := by
      simp only [Compilation.visitAll, diagnosticsOf_append, List.length_append, List.length_cons]
      omega
    rw [hlength, List.replicate_add, List.replicate_add, Pool.follow, List.foldl_append,
      List.foldl_append]
    change ((p.turn i).follow _).follow _ = _
    rw [Pool.turn_place hb, follow_pending (Function.update_self ..), ih (Function.update_self ..)]
    simp [Pool.moved, Compilation.visitAll]

/-- The turns of a build on a compiler: one to begin, one for each module and one for each
diagnostic. -/
def rowLength (compiler : Compiler) (entries : List ChunkEntry) : Nat :=
  1 + (compiler.begin entries).2.1.places.length +
    (diagnosticsOf (compiler.run entries).2.2).length

/-- The pool behind a run of the compiler, which is build `i` from its begin to its end. -/
def Pool.ran (p : Pool n) (i : Fin n) (entries : List ChunkEntry) : Pool n :=
  { compiler := (p.compiler.run entries).1
    builds := Function.update p.builds i (.working (p.compiler.run entries).2.1 [] [])
    started := p.started ++ [i]
    handler := heard p.handler (p.compiler.run entries).2.2 }

/-- A build that takes all its turns in a row is a run of the compiler. -/
lemma follow_row {p : Pool n} {entries : List ChunkEntry} (hb : p.builds i = .waiting entries) :
    p.follow (List.replicate (rowLength p.compiler entries) i) = p.ran i entries := by
  have hnone : diagnosticsOf (p.compiler.begin entries).2.2 = [] := diagnosticsOf_attach _ _
  have htold : diagnosticsOf (p.compiler.run entries).2.2 =
      diagnosticsOf (p.compiler.begin entries).2.1.process.2 := by
    change diagnosticsOf ((p.compiler.begin entries).2.2 ++ _) = _
    rw [diagnosticsOf_append, hnone, List.nil_append]
    rfl
  have hheard : heard p.handler (p.compiler.run entries).2.2 =
      ⟨p.handler.diagnostics ++ diagnosticsOf (p.compiler.run entries).2.2⟩ :=
    congrArg Handler.mk (diagnostics_heard ..)
  rw [Pool.ran, hheard, rowLength, htold, Nat.add_assoc, List.replicate_add, Pool.follow,
    List.foldl_append]
  change (p.turn i).follow _ = _
  rw [Pool.turn_waiting hb, Compilation.process, follow_left (Function.update_self ..)]
  simp [Pool.moved, Compiler.run, Compilation.process]

end Rows

end PublicPath.Proofs
