import PublicPath.Proofs.Processing

/-!
# Calls of taps

`processVia` is processing with the answers of the taps left to a monad. The recorder lets every tap
answer for itself and keeps the calls in the order in which they are made. What it keeps is what a
plain reference calls, which goes through the modules in order and shows a module to all taps if no
module in front of it has its key.
-/

namespace PublicPath.Proofs

structure Call where
  place : Nat × Nat
  /-- The number of the tap, in the order in which the taps were added. -/
  slot : Nat
  tap : Tap
  chunk : Chunk
  module : RuntimeModule

namespace Call

def answer (call : Call) : Reaction := call.tap.react call.module call.chunk

def key (call : Call) : Nat × Nat := (call.chunk.id, call.place.2)

def changed? (call : Call) : Option Chunk :=
  match call.answer.outcome with
  | .ok .mutated => some call.chunk
  | .ok .untouched => none
  | .error _ => none

def error? (call : Call) : Option ShapeError :=
  match call.answer.outcome with
  | .ok _ => none
  | .error e => some e

end Call

/-! ### Processing with calls -/

section Via

/-- What is known of a module when one more tap has given an answer. -/
def answered (chunk : Chunk) (s : Showing) (r : Reaction) : Showing :=
  s.next chunk ⟨"", fun _ _ => r⟩

variable {μ : Type → Type} [Monad μ] (ask : Call → μ Reaction)

-- No answer is had but by `ask`, whatever the monad is, so no call can pass the recorder by.
def showVia (place : Nat × Nat) (chunk : Chunk) : Nat → List Tap → Showing → μ Showing
  | _, [], s => return s
  | slot, tap :: taps, s => do
    let r ← ask ⟨place, slot, tap, chunk, s.module⟩
    showVia place chunk (slot + 1) taps (answered chunk s r)

def visitVia (c : Compilation) (place : Nat × Nat) : μ (Compilation × List BuildEvent) :=
  match moduleAt c.entries place with
  | none => return (c, [])
  | some x =>
    if c.visited.contains (x.1.id, place.2) then return (c, [])
    else do
      let shown ← showVia ask place x.1 0 c.taps (.start x.2)
      return ({ c with
          entries := setModule c.entries place shown.module
          visited := (x.1.id, place.2) :: c.visited
          mutated := c.mutated ++ shown.mutated
          errors := c.errors ++ shown.errors },
        .log (visitLine x) :: shown.events)

def visitAllVia (c : Compilation) : List (Nat × Nat) → μ (Compilation × List BuildEvent)
  | [] => return (c, [])
  | place :: more => do
    let (c, told) ← visitVia ask c place
    let (c, later) ← visitAllVia c more
    return (c, told ++ later)

def processVia (c : Compilation) : μ (Compilation × List BuildEvent) := visitAllVia ask c c.places

end Via

/-- Lets the tap answer, and keeps the call. -/
def record (call : Call) : StateM (List Call) Reaction := do
  modify (· ++ [call])
  return call.answer

/-! ### What is called -/

/-- The calls for one module: every tap is shown what the tap before it left behind. -/
def chain (place : Nat × Nat) (chunk : Chunk) : Nat → List Tap → RuntimeModule → List Call
  | _, [], _ => []
  | slot, tap :: taps, m =>
    ⟨place, slot, tap, chunk, m⟩ :: chain place chunk (slot + 1) taps (tap.react m chunk).module

/-- The module that the last tap leaves behind. -/
def passed (taps : List Tap) (chunk : Chunk) (m : RuntimeModule) : RuntimeModule :=
  taps.foldl (fun m tap => (tap.react m chunk).module) m

/-- The calls of a compilation that was not processed before. -/
def referenceCalls (taps : List Tap) (entries : List ChunkEntry) : List Call :=
  entries.zipIdx.flatMap fun (e, i) => e.modules.zipIdx.flatMap fun (m, j) =>
    if IsFirst entries (i, j) then chain (i, j) e.chunk 0 taps m else []

/-- The calls of the next visit of a place. -/
def callsAt (c : Compilation) (place : Nat × Nat) : List Call :=
  match moduleAt c.entries place with
  | none => []
  | some x =>
    if c.visited.contains (x.1.id, place.2) then [] else chain place x.1 0 c.taps x.2

def callsAlong (c : Compilation) : List (Nat × Nat) → List Call
  | [] => []
  | place :: more => callsAt c place ++ callsAlong (c.visit place).1 more

def shownAt (c : Compilation) (place : Nat × Nat) : List Call :=
  (moduleAt c.entries place).elim [] fun x =>
    if IsDue c place then chain place x.1 0 c.taps x.2 else []

/-- The calls of the next processing. -/
def dueCalls (c : Compilation) : List Call := c.places.flatMap (shownAt c)

/-! ### Calls for one module -/

section Chain

variable (place : Nat × Nat) (chunk : Chunk) (slot : Nat) (taps : List Tap) (s : Showing)

lemma module_next (tap : Tap) : (s.next chunk tap).module = (tap.react s.module chunk).module := by
  unfold Showing.next
  dsimp only
  split <;> rfl

lemma mutated_next (place : Nat × Nat) (slot : Nat) (chunk : Chunk) (s : Showing) (tap : Tap) :
    (s.next chunk tap).mutated =
      s.mutated ++ (Call.changed? ⟨place, slot, tap, chunk, s.module⟩).toList := by
  unfold Showing.next Call.changed? Call.answer
  dsimp only
  split <;> rename_i h <;> simp [h]

lemma errors_next (place : Nat × Nat) (slot : Nat) (chunk : Chunk) (s : Showing) (tap : Tap) :
    (s.next chunk tap).errors =
      s.errors ++ (Call.error? ⟨place, slot, tap, chunk, s.module⟩).toList := by
  unfold Showing.next Call.error? Call.answer
  dsimp only
  split <;> rename_i h <;> simp [h]

lemma module_foldl : (taps.foldl (Showing.next chunk) s).module = passed taps chunk s.module := by
  induction taps generalizing s with
  | nil => rfl
  | cons tap taps ih => rw [List.foldl_cons, ih, module_next, passed, passed, List.foldl_cons]

/-- What a showing gathers at every answer it gathers from the calls. -/
lemma foldl_next_eq_filterMap {α : Type} {f : Call → Option α} {g : Showing → List α}
    (hnext : ∀ slot s tap,
      g (s.next chunk tap) = g s ++ (f ⟨place, slot, tap, chunk, s.module⟩).toList) :
    g (taps.foldl (Showing.next chunk) s) =
      g s ++ (chain place chunk slot taps s.module).filterMap f := by
  induction taps generalizing slot s with
  | nil => simp [chain]
  | cons tap taps ih =>
    rw [List.foldl_cons, ih (slot + 1), hnext slot, module_next, chain, List.filterMap_cons]
    cases f ⟨place, slot, tap, chunk, s.module⟩ <;> simp

lemma showVia_record (log : List Call) : (showVia record place chunk slot taps s).run log =
    (taps.foldl (Showing.next chunk) s, log ++ chain place chunk slot taps s.module) := by
  induction taps generalizing slot s log with
  | nil =>
    rw [chain, List.append_nil]
    rfl
  | cons tap taps ih =>
    have hstep : (showVia record place chunk slot (tap :: taps) s).run log =
        (showVia record place chunk (slot + 1) taps (s.next chunk tap)).run
          (log ++ [⟨place, slot, tap, chunk, s.module⟩]) := rfl
    rw [hstep, ih, module_next, List.append_assoc]
    rfl

end Chain

/-! ### Calls of visits -/

section Visits

variable (c : Compilation) (log : List Call)

lemma visitVia_record (place : Nat × Nat) :
    (visitVia record c place).run log = (c.visit place, log ++ callsAt c place) := by
  unfold visitVia callsAt
  cases hx : moduleAt c.entries place with
  | none =>
    rw [visit_of_none c hx, List.append_nil]
    rfl
  | some x =>
    dsimp only
    rw [List.contains_eq_mem]
    by_cases hm : (x.1.id, place.2) ∈ c.visited
    · rw [visit_of_mem c (keyAt_of_moduleAt hx) hm, if_pos (by simpa using hm),
        if_pos (by simpa using hm), List.append_nil]
      rfl
    · have hshow := showVia_record place x.1 0 c.taps (.start x.2) log
      rw [visit_of_notMem c hx hm, if_neg (by simpa using hm), if_neg (by simpa using hm),
        StateT.run_bind, hshow]
      rfl

lemma visitAllVia_record (ps : List (Nat × Nat)) :
    (visitAllVia record c ps).run log = (c.visitAll ps, log ++ callsAlong c ps) := by
  induction ps generalizing c log with
  | nil =>
    rw [callsAlong, List.append_nil]
    rfl
  | cons p ps ih =>
    have hstep : (visitAllVia record c (p :: ps)).run log =
        let (v, log) := (visitVia record c p).run log
        let (w, log) := (visitAllVia record v.1 ps).run log
        ((w.1, v.2 ++ w.2), log) := rfl
    rw [hstep, visitVia_record]
    dsimp only
    rw [ih, callsAlong, List.append_assoc]
    rfl

variable {c} {c' : Compilation} {done : List (Nat × Nat)} {told : List BuildEvent} {p : Nat × Nat}

lemma Progress.callsAt_eq (h : Progress c done c' told)
    (hdone : ∀ q, q ∈ done ↔ q ∈ c.places ∧ Before q p) : callsAt c' p = shownAt c p := by
  rcases h.next_cases hdone with ⟨hnone, hnone'⟩ | ⟨k, hk, hk', hm, hd⟩ | ⟨x, hx, hx', hm, hd, -⟩
  · simp [callsAt, shownAt, hnone, hnone']
  · obtain ⟨x, hx, -⟩ := Option.map_eq_some_iff.mp hk
    obtain ⟨y, hy, rfl⟩ := Option.map_eq_some_iff.mp hk'
    simp [callsAt, shownAt, hx, hy, hm, hd]
  · simp [callsAt, shownAt, hx, hx', hm, hd, h.taps]

lemma Progress.callsAlong_eq (h : Progress c done c' told) {ps : List (Nat × Nat)}
    (hps : c.places = done ++ ps) : callsAlong c' ps = ps.flatMap (shownAt c) := by
  -- On the places that are left, as in `Progress.visitAll`.
  induction ps generalizing done c' told with
  | nil => rfl
  | cons p ps ih =>
    have hdone := mem_front_iff hps
    rw [callsAlong, List.flatMap_cons, h.callsAt_eq hdone, ih (h.visit hdone) (by simpa using hps)]

/-- The recorder sees the calls for the modules that are due and changes nothing else. -/
theorem processVia_record (c : Compilation) (log : List Call) :
    (processVia record c).run log = (c.process, log ++ dueCalls c) := by
  have hcalls : callsAlong c c.places = dueCalls c :=
    (Progress.start c).callsAlong_eq (List.nil_append _).symm
  rw [processVia, visitAllVia_record, hcalls]
  rfl

end Visits

/-! ### One processing -/

/-- A compilation with some taps that was not processed yet. -/
def tapped (id : Nat) (taps : List Tap) (entries : List ChunkEntry) : Compilation :=
  taps.foldl Compilation.addTap (.start id entries)

/-- What the first processing of some entries leaves behind, and which calls it makes. -/
structure Refines (taps : List Tap) (entries : List ChunkEntry) (done : Compilation)
    (calls : List Call) : Prop where
  called : calls = referenceCalls taps entries
  shape : shape done.entries = shape entries
  module (place : Nat × Nat) : moduleAt done.entries place =
    (moduleAt entries place).map fun x =>
      (x.1, if IsFirst entries place then passed taps x.1 x.2 else x.2)
  mutated : done.mutated = calls.filterMap Call.changed?
  errors : done.errors = calls.filterMap Call.error?

section Processing

variable (c : Compilation)

/-- What a processing gathers from its modules it gathers from its calls. -/
lemma filterMap_dueCalls {α : Type} (f : Call → Option α) (g : Showing → List α)
    (hstart : ∀ m, g (.start m) = [])
    (hnext : ∀ place slot chunk s tap,
      g (s.next chunk tap) = g s ++ (f ⟨place, slot, tap, chunk, s.module⟩).toList) :
    (dueCalls c).filterMap f = (dueModules c c.places).flatMap fun x => g (showing c x) := by
  rw [dueCalls, List.filterMap_flatMap, flatMap_dueModules_eq]
  congr 1
  funext p
  cases hx : moduleAt c.entries p with
  | none => simp [shownAt, hx]
  | some x =>
    have hchain : g (showing c x) = (chain p x.1 0 c.taps x.2).filterMap f := by
      have h := foldl_next_eq_filterMap p x.1 0 c.taps (.start x.2) (hnext p · x.1)
      rwa [hstart] at h
    by_cases hd : IsDue c p <;> simp [shownAt, hx, hd, hchain]

lemma mutated_process : c.process.1.mutated = c.mutated ++ (dueCalls c).filterMap Call.changed? := by
  rw [(progress_process c).mutated]
  congr 1
  exact (filterMap_dueCalls c _ Showing.mutated (fun _ => rfl) mutated_next).symm

lemma errors_process : c.process.1.errors = c.errors ++ (dueCalls c).filterMap Call.error? := by
  rw [(progress_process c).errors]
  congr 1
  exact (filterMap_dueCalls c _ Showing.errors (fun _ => rfl) errors_next).symm

lemma dueCalls_eq_referenceCalls (h : c.visited = []) :
    dueCalls c = referenceCalls c.taps c.entries := by
  have hdue : ∀ p, IsDue c p ↔ IsFirst c.entries p := fun p => isDue_iff_isFirst h
  unfold dueCalls shownAt
  simp only [hdue]
  exact flatMap_places fun p x => if IsFirst c.entries p then chain p x.1 0 c.taps x.2 else []

lemma foldl_addTap (taps : List Tap) :
    taps.foldl Compilation.addTap c = { c with taps := c.taps ++ taps } := by
  induction taps generalizing c with
  | nil => simp
  | cons tap taps ih => simp [ih, Compilation.addTap]

/-- The first processing of a compilation is the reference: it shows the modules that are the first
with their keys, in order, each to all taps, whatever the taps answer. -/
theorem process_refines (id : Nat) (taps : List Tap) (entries : List ChunkEntry) :
    ((processVia record (tapped id taps entries)).run []).1 = (tapped id taps entries).process ∧
      Refines taps entries (tapped id taps entries).process.1
        ((processVia record (tapped id taps entries)).run []).2 := by
  have hc : tapped id taps entries = ⟨id, taps, entries, [], [], []⟩ := foldl_addTap _ taps
  rw [hc, processVia_record, List.nil_append]
  refine ⟨rfl, ?_⟩
  constructor
  · exact dueCalls_eq_referenceCalls _ rfl
  · exact (progress_process _).shape
  · intro place
    have hdue : IsDue ⟨id, taps, entries, [], [], []⟩ place ↔ IsFirst entries place :=
      isDue_iff_isFirst rfl
    simp only [moduleAt_process, hdue, showing, showAll, module_foldl, Showing.start]
  · exact mutated_process _
  · exact errors_process _

end Processing

end PublicPath.Proofs
