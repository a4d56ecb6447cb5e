import Mathlib.Data.List.FinRange
import PublicPath.Build.CallPlugin
import PublicPath.Proofs.Processing
import PublicPath.Proofs.TurnTaking

/-!
# Builds on a shared compiler

Builds that take turns on one compiler do not show it: each ends as it would alone, the numbers are
those of the order in which they began, and the handler holds what the builds report, mixed. The
invariant is that every build is somewhere on its own way, and the handler is a merge of what was
reported so far.
-/

namespace PublicPath.Proofs

/-- The whole is made of the parts, each of them in its own order. -/
inductive IsMerge {ι α : Type} [DecidableEq ι] : (ι → List α) → List α → Prop
  | nil : IsMerge (fun _ => []) []
  | snoc {parts : ι → List α} {whole : List α} (h : IsMerge parts whole) (i : ι) (x : α) :
      IsMerge (Function.update parts i (parts i ++ [x])) (whole ++ [x])

def equipped (calls : List InitializerCall) : Compiler :=
  calls.foldl (fun compiler call => compiler.register call.plugin) .empty

/-- What a build of some chunks leaves behind if no other runs on the compiler. -/
def alone (calls : List InitializerCall) (entries : List ChunkEntry) : Compilation :=
  ((equipped calls).run entries).2.1

/-- The turns of a build: one to begin, one for each module and one for each error. -/
def turns (calls : List InitializerCall) (entries : List ChunkEntry) : Nat :=
  1 + (Compilation.start 0 entries).places.length + (alone calls entries).errors.length

/-- All builds are done, and none of them shows that there were others. -/
structure Isolated {n : Nat} (calls : List InitializerCall) (inputs : Fin n → List ChunkEntry)
    (p : Pool n) (done : Fin n → Compilation) : Prop where
  builds (i : Fin n) : p.builds i = .working (done i) [] []
  entries (i : Fin n) : (done i).entries = (alone calls (inputs i)).entries
  mutated (i : Fin n) : (done i).mutated = (alone calls (inputs i)).mutated
  errors (i : Fin n) : (done i).errors = (alone calls (inputs i)).errors
  taps (i : Fin n) : (done i).taps = calls.map fun call => call.plugin.tap
  tapNames (i : Fin n) : (done i).tapNames = calls.map fun _ => InitializerCall.pluginName
  render (i : Fin n) : (done i).render = (alone calls (inputs i)).render
  ids_injective : Function.Injective fun i => (done i).id
  ids : p.started.map (fun i => (done i).id) = List.range n
  handler : IsMerge (fun i => (done i).errors.map ShapeError.diagnostic) p.handler.diagnostics

/-! ### Numbers -/

section Numbers

variable (calls : List InitializerCall) (entries : List ChunkEntry)

/-- A compilation with a tap for each call, before any module is shown. -/
def readied (k : Nat) : Compilation :=
  ⟨k, calls.map fun call => call.plugin.tap, entries, [], [], []⟩

def numbered (k : Nat) (c : Compilation) : Compilation := { c with id := k }

/-- What a compilation with a number becomes when some places are visited. -/
def midway (k : Nat) (done : List (Nat × Nat)) : Compilation :=
  ((readied calls entries k).visitAll done).1

lemma begin_eq (compiler : Compiler) (h : compiler.plugins = calls.map (·.plugin)) :
    (compiler.begin entries).1 = { compiler with nextId := compiler.nextId + 1 } ∧
      (compiler.begin entries).2.1 = readied calls entries compiler.nextId := by
  refine ⟨rfl, ?_⟩
  change (Compiler.attach compiler.plugins (.start compiler.nextId entries)).1 = _
  rw [attach_eq, h, List.map_map]
  rfl

lemma foldl_register (compiler : Compiler) :
    calls.foldl (fun compiler call => compiler.register call.plugin) compiler =
      { compiler with plugins := compiler.plugins ++ calls.map (·.plugin) } := by
  induction calls generalizing compiler with
  | nil => simp
  | cons call calls ih =>
    rw [List.foldl_cons, ih]
    simp [Compiler.register]

lemma equipped_eq : equipped calls = ⟨calls.map (·.plugin), 0⟩ := foldl_register calls .empty

lemma visit_numbered (k : Nat) (c : Compilation) (place : Nat × Nat) :
    (numbered k c).visit place = (numbered k (c.visit place).1, (c.visit place).2) := by
  unfold Compilation.visit numbered
  dsimp only
  split
  · rfl
  · split
    · rfl
    · split <;> rfl

lemma visitAll_numbered (k : Nat) (c : Compilation) (ps : List (Nat × Nat)) :
    ((numbered k c).visitAll ps).1 = numbered k (c.visitAll ps).1 := by
  induction ps generalizing c with
  | nil => rfl
  | cons p ps ih => simp [Compilation.visitAll, visit_numbered, ih]

lemma midway_eq (k : Nat) (done : List (Nat × Nat)) :
    midway calls entries k done = numbered k (midway calls entries 0 done) :=
  visitAll_numbered k (readied calls entries 0) done

lemma visit_midway (k : Nat) (done : List (Nat × Nat)) (place : Nat × Nat) :
    ((midway calls entries k done).visit place).1 = midway calls entries k (done ++ [place]) := by
  rw [midway, midway, visitAll_append]
  rfl

lemma alone_eq_process : alone calls entries = (readied calls entries 0).process.1 := by
  have hplugins : (equipped calls).plugins = calls.map (·.plugin) := by rw [equipped_eq]
  have hid : (equipped calls).nextId = 0 := by rw [equipped_eq]
  change ((equipped calls).begin entries).2.1.process.1 = _
  rw [(begin_eq calls entries _ hplugins).2, hid]

lemma midway_places (k : Nat) :
    midway calls entries k (Compilation.start 0 entries).places = numbered k (alone calls entries) := by
  rw [midway_eq, alone_eq_process]
  rfl

lemma taps_alone : (alone calls entries).taps = calls.map fun call => call.plugin.tap := by
  rw [alone_eq_process, (progress_process _).taps]
  rfl

lemma length_errors_midway {k : Nat} {done left : List (Nat × Nat)}
    (h : (Compilation.start 0 entries).places = done ++ left) :
    (midway calls entries k done).errors.length ≤ (alone calls entries).errors.length := by
  have hend := midway_places calls entries k
  rw [h, midway, visitAll_append] at hend
  have herrors := errors_visitAll (midway calls entries k done) left
  have hlength := congrArg List.length herrors
  simp only [List.length_append, List.length_map] at hlength
  have halone : ((midway calls entries k done).visitAll left).1.errors.length =
      (alone calls entries).errors.length := by
    rw [midway, hend]
    rfl
  omega

end Numbers

/-! ### The way of a build -/

def Build.remaining (calls : List InitializerCall) (entries : List ChunkEntry) : Build → Nat
  | .waiting _ => turns calls entries
  | .working c left pending =>
    left.length + pending.length + ((alone calls entries).errors.length - c.errors.length)

/-- Where a build of some chunks is, when it has reported some diagnostics. -/
inductive Tracks {n : Nat} (calls : List InitializerCall) (started : List (Fin n)) (i : Fin n)
    (entries : List ChunkEntry) : Build → List Diagnostic → Prop
  | waiting (h : i ∉ started) : Tracks calls started i entries (.waiting entries) []
  | working {k : Nat} {done left : List (Nat × Nat)} {pending reported : List Diagnostic}
      (hk : started[k]? = some i) (hplaces : (Compilation.start 0 entries).places = done ++ left)
      (hreported : (midway calls entries k done).errors.map ShapeError.diagnostic =
        reported ++ pending) :
      Tracks calls started i entries (.working (midway calls entries k done) left pending) reported

/-- What a schedule leads to, when each build has reported some diagnostics. -/
structure Follows {n : Nat} (calls : List InitializerCall) (inputs : Fin n → List ChunkEntry)
    (schedule : List (Fin n)) (p : Pool n) (reported : Fin n → List Diagnostic) : Prop where
  plugins : p.compiler.plugins = calls.map (·.plugin)
  nextId : p.compiler.nextId = p.started.length
  nodup : p.started.Nodup
  tracks (i : Fin n) : Tracks calls p.started i (inputs i) (p.builds i) (reported i)
  remaining (i : Fin n) : (p.builds i).remaining calls (inputs i) ≤
    turns calls (inputs i) - schedule.count i
  merge : IsMerge reported p.handler.diagnostics

section Turns

variable {n : Nat} {calls : List InitializerCall} {inputs : Fin n → List ChunkEntry}
  {schedule : List (Fin n)} {p : Pool n} {reported : Fin n → List Diagnostic} {i : Fin n}

lemma follows_start (calls : List InitializerCall) (inputs : Fin n → List ChunkEntry) :
    Follows calls inputs [] (Pool.start (equipped calls) inputs) fun _ => [] := by
  constructor
  · simp [Pool.start, equipped_eq]
  · simp [Pool.start, equipped_eq]
  · exact List.nodup_nil
  · intro i
    exact .waiting List.not_mem_nil
  · intro i
    simp [Pool.start, Build.remaining]
  · exact .nil

lemma Tracks.append {started : List (Fin n)} {j : Fin n} {entries : List ChunkEntry} {b : Build}
    {part : List Diagnostic} (h : Tracks calls started j entries b part) (hj : j ≠ i) :
    Tracks calls (started ++ [i]) j entries b part := by
  cases h with
  | waiting h => exact .waiting (by simp [h, hj])
  | working hk hplaces hreported =>
    refine .working ?_ hplaces hreported
    rw [List.getElem?_append_left (List.getElem?_eq_some_iff.mp hk).1, hk]

lemma Follows.update (h : Follows calls inputs schedule p reported) {b : Build}
    {part : List Diagnostic} {compiler : Compiler} {started : List (Fin n)} {handler : Handler}
    (hplugins : compiler.plugins = calls.map (·.plugin)) (hnext : compiler.nextId = started.length)
    (hnodup : started.Nodup) (htracks : Tracks calls started i (inputs i) b part)
    (hothers : ∀ j ≠ i, Tracks calls p.started j (inputs j) (p.builds j) (reported j) →
      Tracks calls started j (inputs j) (p.builds j) (reported j))
    (hremaining : b.remaining calls (inputs i) ≤ (p.builds i).remaining calls (inputs i) - 1)
    (hmerge : IsMerge (Function.update reported i part) handler.diagnostics) :
    Follows calls inputs (schedule ++ [i])
      ⟨compiler, Function.update p.builds i b, started, handler⟩ (Function.update reported i part) := by
  constructor
  · exact hplugins
  · exact hnext
  · exact hnodup
  · intro j
    by_cases hj : j = i
    · subst hj
      simpa using htracks
    · simpa [hj] using hothers j hj (h.tracks j)
  · -- The schedule counts one turn more for the build that moved, and no more for the others.
    intro j
    have hbefore := h.remaining j
    rw [List.count_append]
    by_cases hj : j = i
    · subst hj
      simp only [Function.update_self, List.count_singleton_self]
      omega
    · have hcount : [i].count j = 0 := List.count_eq_zero.mpr (by simpa using hj)
      simpa [hj, hcount] using hbefore
  · exact hmerge

lemma Follows.begin (h : Follows calls inputs schedule p reported) {entries : List ChunkEntry}
    (hb : p.builds i = .waiting entries) :
    Follows calls inputs (schedule ++ [i]) (p.turn i) (Function.update reported i []) := by
  obtain ⟨hcompiler, hready⟩ := begin_eq calls entries p.compiler h.plugins
  have htracks := h.tracks i
  rw [hb] at htracks
  generalize hpart : reported i = part at htracks
  cases htracks with
  | waiting hnew =>
    rw [Pool.turn_waiting hb, hcompiler, hready]
    apply h.update
    · exact h.plugins
    · simp [h.nextId]
    · rw [← List.concat_eq_append]
      exact h.nodup.concat hnew
    · refine .working ?_ (List.nil_append _).symm rfl
      simp [h.nextId]
    · intro j hj hold
      exact hold.append hj
    · have hplaces : (readied calls (inputs i) p.compiler.nextId).places.length =
          (Compilation.start 0 (inputs i)).places.length := rfl
      have herrors : (readied calls (inputs i) p.compiler.nextId).errors.length = 0 := rfl
      rw [hb]
      simp only [Build.remaining, turns, hplaces, herrors, List.length_nil]
      omega
    · rw [← hpart, Function.update_eq_self]
      exact h.merge

lemma Follows.report (h : Follows calls inputs schedule p reported) {c : Compilation}
    {left : List (Nat × Nat)} {d : Diagnostic} {pending : List Diagnostic}
    (hb : p.builds i = .working c left (d :: pending)) :
    Follows calls inputs (schedule ++ [i]) (p.turn i)
      (Function.update reported i (reported i ++ [d])) := by
  have htracks := h.tracks i
  rw [hb] at htracks
  rw [Pool.turn_pending hb]
  cases htracks with
  | working hk hplaces hreported =>
    apply h.update
    · exact h.plugins
    · exact h.nextId
    · exact h.nodup
    · exact .working hk hplaces (by simpa using hreported)
    · intro j _ hold
      exact hold
    · rw [hb]
      simp only [Build.remaining, List.length_cons]
      omega
    · exact h.merge.snoc i d

lemma Follows.visit (h : Follows calls inputs schedule p reported) {c : Compilation}
    {place : Nat × Nat} {left : List (Nat × Nat)} (hb : p.builds i = .working c (place :: left) []) :
    Follows calls inputs (schedule ++ [i]) (p.turn i) (Function.update reported i (reported i)) := by
  have htracks := h.tracks i
  have herrors := errors_visit c place
  rw [hb] at htracks
  rw [Pool.turn_place hb]
  cases htracks with
  | @working k done _ _ _ hk hplaces hreported =>
    have hplaces' : (Compilation.start 0 (inputs i)).places = (done ++ [place]) ++ left := by
      rw [hplaces, List.append_assoc]
      rfl
    rw [hreported, List.append_nil, visit_midway] at herrors
    rw [visit_midway]
    apply h.update
    · exact h.plugins
    · exact h.nextId
    · exact h.nodup
    · exact .working hk hplaces' herrors
    · intro j _ hold
      exact hold
    · have hmost : (midway calls (inputs i) k (done ++ [place])).errors.length ≤
          (alone calls (inputs i)).errors.length := length_errors_midway calls (inputs i) hplaces'
      have hnow := congrArg List.length hreported
      have hnext := congrArg List.length herrors
      simp only [List.length_append, List.length_map, List.length_nil] at hnow hnext
      rw [hb]
      simp only [Build.remaining, List.length_cons, List.length_nil]
      omega
    · rw [Function.update_eq_self]
      exact h.merge

lemma Follows.eq_alone (h : Follows calls inputs schedule p reported) {c : Compilation}
    (hb : p.builds i = .working c [] []) : c = numbered c.id (alone calls (inputs i)) ∧
      p.started[c.id]? = some i ∧ c.errors.map ShapeError.diagnostic = reported i := by
  have htracks := h.tracks i
  rw [hb] at htracks
  cases htracks with
  | @working k done _ _ _ hk hplaces hreported =>
    rw [List.append_nil] at hplaces hreported
    rw [← hplaces, midway_places] at hreported ⊢
    exact ⟨rfl, hk, hreported⟩

lemma Follows.stay (h : Follows calls inputs schedule p reported) {c : Compilation}
    (hb : p.builds i = .working c [] []) :
    Follows calls inputs (schedule ++ [i]) (p.turn i) reported := by
  have herrors : c.errors = (alone calls (inputs i)).errors := by
    rw [(h.eq_alone hb).1]
    rfl
  have hnone : (p.builds i).remaining calls (inputs i) = 0 := by
    simp [hb, Build.remaining, herrors]
  have hmerge : IsMerge (Function.update reported i (reported i)) p.handler.diagnostics := by
    rw [Function.update_eq_self]
    exact h.merge
  have hstep := h.update h.plugins h.nextId h.nodup (h.tracks i) (fun _ _ hold => hold)
    (by rw [hnone]) hmerge
  rwa [Function.update_eq_self, Function.update_eq_self, ← Pool.turn_done hb] at hstep

theorem Follows.turn (h : Follows calls inputs schedule p reported) (i : Fin n) :
    ∃ reported', Follows calls inputs (schedule ++ [i]) (p.turn i) reported' := by
  cases hb : p.builds i with
  | waiting entries => exact ⟨_, h.begin hb⟩
  | working c left pending =>
    cases pending with
    | cons d pending => exact ⟨_, h.report hb⟩
    | nil =>
      cases left with
      | cons place left => exact ⟨_, h.visit hb⟩
      | nil => exact ⟨_, h.stay hb⟩

/-- Whatever the schedule, every build stays on its own way. -/
theorem Follows.follow (h : Follows calls inputs schedule p reported) (later : List (Fin n)) :
    ∃ reported', Follows calls inputs (schedule ++ later) (p.follow later) reported' := by
  -- On what is left of the schedule; the part behind it indexes the invariant.
  induction later generalizing schedule p reported with
  | nil =>
    rw [List.append_nil]
    exact ⟨reported, h⟩
  | cons i later ih =>
    obtain ⟨reported', hturn⟩ := h.turn i
    obtain ⟨reported'', hfollow⟩ := ih hturn
    refine ⟨reported'', ?_⟩
    rwa [List.append_assoc] at hfollow

lemma Follows.exists_done (h : Follows calls inputs schedule p reported)
    (hturns : turns calls (inputs i) ≤ schedule.count i) : ∃ c, p.builds i = .working c [] [] := by
  have hremaining := h.remaining i
  have hnone : (p.builds i).remaining calls (inputs i) = 0 := by omega
  cases hb : p.builds i with
  | waiting entries =>
    rw [hb] at hnone
    simp only [Build.remaining, turns] at hnone
    omega
  | working c left pending =>
    rw [hb] at hnone
    simp only [Build.remaining] at hnone
    have hleft : left = [] := List.length_eq_zero_iff.mp (by omega)
    have hpending : pending = [] := List.length_eq_zero_iff.mp (by omega)
    exact ⟨c, by rw [hleft, hpending]⟩

lemma Follows.ids (h : Follows calls inputs schedule p reported) {done : Fin n → Compilation}
    (hdone : ∀ i, p.builds i = .working (done i) [] []) :
    p.started.map (fun i => (done i).id) = List.range n := by
  have hid : ∀ i, p.started[(done i).id]? = some i := fun i => (h.eq_alone (hdone i)).2.1
  have hperm : p.started.Perm (List.finRange n) := by
    rw [List.perm_ext_iff_of_nodup h.nodup (List.nodup_finRange n)]
    exact fun i => iff_of_true (List.mem_of_getElem? (hid i)) (List.mem_finRange i)
  -- The build that began as the k-th one is found by its number at index k, and nowhere else.
  apply List.ext_getElem
  · simpa using hperm.length_eq
  · intro k hk _
    rw [List.length_map] at hk
    have hk' := hid p.started[k]
    rw [← List.getElem?_eq_getElem hk] at hk'
    rw [List.getElem_map, List.getElem_range]
    exact ((List.getElem?_inj hk h.nodup).mp hk'.symm).symm

lemma Follows.isolated (h : Follows calls inputs schedule p reported) {done : Fin n → Compilation}
    (hdone : ∀ i, p.builds i = .working (done i) [] []) : Isolated calls inputs p done := by
  have halone : ∀ i, done i = numbered (done i).id (alone calls (inputs i)) :=
    fun i => (h.eq_alone (hdone i)).1
  have htaps : ∀ i, (done i).taps = calls.map fun call => call.plugin.tap := by
    intro i
    rw [halone i]
    exact taps_alone calls (inputs i)
  have hreported : (fun i => (done i).errors.map ShapeError.diagnostic) = reported := by
    funext i
    exact (h.eq_alone (hdone i)).2.2
  constructor
  · exact hdone
  · intro i
    rw [halone i]
    rfl
  · intro i
    rw [halone i]
    rfl
  · intro i
    rw [halone i]
    rfl
  · exact htaps
  · intro i
    rw [Compilation.tapNames, htaps, List.map_map]
    rfl
  · intro i
    rw [halone i]
    rfl
  · intro i j (hij : (done i).id = (done j).id)
    have hi := (h.eq_alone (hdone i)).2.1
    rw [hij, (h.eq_alone (hdone j)).2.1] at hi
    exact (Option.some.inj hi).symm
  · exact h.ids hdone
  · rw [hreported]
    exact h.merge

/-- However the turns of builds on one compiler are mixed, each build ends as it would alone, the
numbers tell only in which order they began, and nothing that they report is lost or told twice. A
build that takes its turns in a row, whatever the others have done so far, is a run of the
compiler. -/
theorem follow_isolated (calls : List InitializerCall) (inputs : Fin n → List ChunkEntry) :
    (∀ schedule : List (Fin n), (∀ i, turns calls (inputs i) ≤ schedule.count i) →
      ∃ done, Isolated calls inputs ((Pool.start (equipped calls) inputs).follow schedule) done) ∧
      ∀ (p : Pool n) (i : Fin n) (entries : List ChunkEntry), p.builds i = .waiting entries →
        p.follow (List.replicate (rowLength p.compiler entries) i) = p.ran i entries := by
  refine ⟨fun schedule hturns => ?_, fun p i entries => follow_row⟩
  obtain ⟨reported, h⟩ := (follows_start calls inputs).follow schedule
  rw [List.nil_append] at h
  choose done hdone using fun i => h.exists_done (hturns i)
  exact ⟨done, h.isolated hdone⟩

end Turns

/-- A build that changes its module, and one that reports an error for each call. -/
def crossing : Fin 2 → List ChunkEntry
  | 0 => [⟨⟨0, some "a"⟩, [.publicPath "/"]⟩]
  | 1 => [⟨⟨0, some "b"⟩, [⟨.publicPath, "x"⟩]⟩]

/-- A compiler with two calls. -/
def crossingCalls : List InitializerCall := [⟨"setPath", "checkout"⟩, ⟨"app.set", "it's"⟩]

theorem follow_isolated_crossing :
    (∀ i, turns crossingCalls (crossing i) ≤ [1, 0, 1, 1, 0, 1].count i) ∧
      (∃ done, Isolated crossingCalls crossing
        ((Pool.start (equipped crossingCalls) crossing).follow [1, 0, 1, 1, 0, 1]) done) ∧
      (Pool.start (equipped crossingCalls) crossing).follow [1, 1, 1, 1] =
        (Pool.start (equipped crossingCalls) crossing).ran 1 (crossing 1) := by
  obtain ⟨hmixed, hrow⟩ := follow_isolated crossingCalls crossing
  have hturns : ∀ i, turns crossingCalls (crossing i) ≤ [1, 0, 1, 1, 0, 1].count i := by
    decide +kernel
  have hlength : rowLength (equipped crossingCalls) (crossing 1) = 4 := by decide +kernel
  refine ⟨hturns, hmixed _ hturns, ?_⟩
  rw [← hrow (Pool.start (equipped crossingCalls) crossing) 1 (crossing 1) rfl, Pool.start, hlength]
  rfl

end PublicPath.Proofs
