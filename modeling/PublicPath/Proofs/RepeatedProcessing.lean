import Mathlib.Data.Nat.Find
import PublicPath.Proofs.TapCalls
import PublicPath.Proofs.TurnTaking

/-!
# Repeated processing

A compilation may be processed again, and taps may be added in between. Nothing comes of it: the
first processing remembers every module, and the modules that are remembered are shown to no tap.
-/

namespace PublicPath.Proofs

inductive Operation where
  | tap (tap : Tap)
  | process

/-- A compilation with the handler that it reports to. -/
structure Bench where
  compilation : Compilation
  handler : Handler

namespace Bench

def operate (b : Bench) : Operation → Bench
  | .tap tap => { b with compilation := b.compilation.addTap tap }
  | .process => ⟨b.compilation.process.1, heard b.handler b.compilation.process.2⟩

def operateAll (b : Bench) (ops : List Operation) : Bench := ops.foldl operate b

section Via

variable {μ : Type → Type} [Monad μ] (ask : Call → μ Reaction)

def operateVia (b : Bench) : Operation → μ Bench
  | .tap tap => return { b with compilation := b.compilation.addTap tap }
  | .process => do
    let (c, told) ← processVia ask b.compilation
    return ⟨c, heard b.handler told⟩

def operateAllVia (b : Bench) : List Operation → μ Bench
  | [] => return b
  | o :: more => do
    let b ← operateVia ask b o
    operateAllVia b more

end Via

/-- The operations with the recorder: what is left, and the calls that were made. -/
def recorded (b : Bench) (ops : List Operation) : Bench × List Call :=
  (operateAllVia record b ops).run []

end Bench

/-- All that can be seen of a bench but its taps is the same. -/
structure Unchanged (b b' : Bench) : Prop where
  entries : b'.compilation.entries = b.compilation.entries
  mutated : b'.compilation.mutated = b.compilation.mutated
  errors : b'.compilation.errors = b.compilation.errors
  render : b'.compilation.render = b.compilation.render
  diagnostics : b'.handler.diagnostics = b.handler.diagnostics

/-- What some operations lead to, and which calls they make. -/
structure ShownOnce (b : Bench) (ops : List Operation) (after : Bench) (calls : List Call) :
    Prop where
  /-- No tap is called twice for a key. -/
  once : (calls.map fun call => (call.slot, call.key)).Nodup
  slot : ∀ call ∈ calls, after.compilation.taps[call.slot]? = some call.tap
  key : ∀ call ∈ calls, keyAt b.compilation.entries call.place = some call.key ∧
    call.key ∉ b.compilation.visited
  unprocessed : .process ∉ ops → calls = []
  /-- A key is shown to the taps that there are when it is first processed, and to no other. -/
  shown (front back : List Operation) (hops : ops = front ++ .process :: back)
    (hfront : .process ∉ front) (place k : Nat × Nat)
    (hk : keyAt b.compilation.entries place = some k) (hnew : k ∉ b.compilation.visited) :
    (calls.filter fun call => call.key = k).map (fun call => (call.tap, call.slot)) =
      (b.operateAll front).compilation.taps.zipIdx
  /-- Behind a processing nothing changes. -/
  settled (front back : List Operation) (hops : ops = front ++ back) (hfront : .process ∈ front) :
    Unchanged (b.operateAll front) after

/-! ### The calls of one processing -/

section Calls

variable {c : Compilation}

lemma IsDue.unique {p q k : Nat × Nat} (hp : IsDue c p) (hq : IsDue c q)
    (hpk : keyAt c.entries p = some k) (hqk : keyAt c.entries q = some k) : p = q := by
  have hsame : p.2 = q.2 := (snd_of_keyAt hpk).trans (snd_of_keyAt hqk).symm
  have hnot : ∀ {r s : Nat × Nat}, IsDue c s → r.2 = s.2 → keyAt c.entries r = some k →
      keyAt c.entries s = some k → ¬ r.1 < s.1 := by
    intro r s hs hrs hrk hsk hlt
    exact hs.2 r.1 hlt (by rw [hsk, ← hrs]; exact hrk)
  have hle := hnot hq hsame hpk hqk
  have hge := hnot hp hsame.symm hqk hpk
  exact Prod.ext (by omega) hsame

/-- A key that is not remembered is due at the first of its places. -/
lemma exists_isDue {place k : Nat × Nat} (hk : keyAt c.entries place = some k)
    (hnew : k ∉ c.visited) : ∃ p, IsDue c p ∧ keyAt c.entries p = some k := by
  have hex : ∃ i, keyAt c.entries (i, k.2) = some k := ⟨place.1, by rwa [← snd_of_keyAt hk]⟩
  refine ⟨(Nat.find hex, k.2), ⟨?_, ?_⟩, Nat.find_spec hex⟩
  · rw [Nat.find_spec hex]
    rintro _ ⟨⟩
    exact hnew
  · intro i hi
    rw [Nat.find_spec hex]
    exact Nat.find_min hex hi

lemma chain_map (place : Nat × Nat) (chunk : Chunk) (slot : Nat) (taps : List Tap)
    (m : RuntimeModule) :
    (chain place chunk slot taps m).map (fun call => (call.tap, call.slot)) = taps.zipIdx slot := by
  induction taps generalizing slot m with
  | nil => rfl
  | cons tap taps ih => simp [chain, ih]

lemma mem_chain {place : Nat × Nat} {chunk : Chunk} {slot : Nat} {taps : List Tap}
    {m : RuntimeModule} {call : Call} (h : call ∈ chain place chunk slot taps m) :
    call.place = place ∧ call.chunk = chunk := by
  induction taps generalizing slot m with
  | nil => cases h
  | cons tap taps ih =>
    rw [chain, List.mem_cons] at h
    rcases h with rfl | h
    · exact ⟨rfl, rfl⟩
    · exact ih h

lemma shownAt_of_isDue {p : Nat × Nat} (hd : IsDue c p) {x : Chunk × RuntimeModule}
    (hx : moduleAt c.entries p = some x) : shownAt c p = chain p x.1 0 c.taps x.2 := by
  simp [shownAt, hx, hd]

lemma mem_shownAt {p : Nat × Nat} {call : Call} (h : call ∈ shownAt c p) :
    IsDue c p ∧ call.place = p ∧ keyAt c.entries p = some call.key := by
  cases hx : moduleAt c.entries p with
  | none => simp [shownAt, hx] at h
  | some x =>
    by_cases hd : IsDue c p
    · rw [shownAt_of_isDue hd hx] at h
      obtain ⟨hplace, hchunk⟩ := mem_chain h
      refine ⟨hd, hplace, ?_⟩
      rw [keyAt_of_moduleAt hx, Call.key, hplace, hchunk]
    · simp [shownAt, hx, hd] at h

lemma map_shownAt {p k : Nat × Nat} (hd : IsDue c p) (hk : keyAt c.entries p = some k) :
    (shownAt c p).map (fun call => (call.tap, call.slot)) = c.taps.zipIdx := by
  obtain ⟨x, hx, -⟩ := Option.map_eq_some_iff.mp hk
  rw [shownAt_of_isDue hd hx, chain_map]

lemma nodup_shownAt (p : Nat × Nat) : ((shownAt c p).map Call.slot).Nodup := by
  cases hx : moduleAt c.entries p with
  | none => simp [shownAt, hx]
  | some x =>
    by_cases hd : IsDue c p
    · have hk := keyAt_of_moduleAt hx
      have hslots : (shownAt c p).map Call.slot = c.taps.zipIdx.map Prod.snd := by
        rw [← map_shownAt hd hk, List.map_map]
        rfl
      rw [hslots, List.zipIdx_map_snd]
      exact List.nodup_range'
    · simp [shownAt, hx, hd]

lemma nodup_dueCalls : ((dueCalls c).map fun call => (call.slot, call.key)).Nodup := by
  rw [dueCalls, List.map_flatMap, List.nodup_flatMap]
  constructor
  · intro p _
    apply List.Nodup.of_map Prod.fst
    rw [List.map_map]
    exact nodup_shownAt p
  · refine places_pairwise.imp ?_
    intro p q hb x hp hq
    obtain ⟨call, hcall, rfl⟩ := List.mem_map.mp hp
    obtain ⟨call', hcall', h⟩ := List.mem_map.mp hq
    obtain ⟨hd, -, hk⟩ := mem_shownAt hcall
    obtain ⟨hd', -, hk'⟩ := mem_shownAt hcall'
    have hkey : call'.key = call.key := (Prod.ext_iff.mp h).2
    have heq := hd.unique hd' hk (hkey ▸ hk')
    subst heq
    unfold Before at hb
    omega

lemma mem_dueCalls {call : Call} (h : call ∈ dueCalls c) :
    keyAt c.entries call.place = some call.key ∧ call.key ∉ c.visited ∧
      c.taps[call.slot]? = some call.tap := by
  obtain ⟨p, -, hp⟩ := List.mem_flatMap.mp h
  obtain ⟨hd, hplace, hk⟩ := mem_shownAt hp
  refine ⟨by rw [hplace, hk], hd.1 _ hk, ?_⟩
  have hmem : (call.tap, call.slot) ∈ c.taps.zipIdx := by
    rw [← map_shownAt hd hk]
    exact List.mem_map_of_mem hp
  exact List.mem_zipIdx_iff_getElem?.mp hmem

/-- The calls for one key are those for the first of its places. -/
lemma filter_dueCalls {place k : Nat × Nat} (hk : keyAt c.entries place = some k)
    (hnew : k ∉ c.visited) :
    ((dueCalls c).filter fun call => call.key = k).map (fun call => (call.tap, call.slot)) =
      c.taps.zipIdx := by
  obtain ⟨p, hd, hp⟩ := exists_isDue hk hnew
  have hplaces : p ∈ c.places := by rw [mem_places_iff, hp]; rfl
  have hothers : ∀ q ∈ c.places, q ≠ p → (shownAt c q).filter (fun call => call.key = k) = [] := by
    intro q _ hq
    rw [List.filter_eq_nil_iff]
    intro call hcall heq
    obtain ⟨hdq, -, hkq⟩ := mem_shownAt hcall
    rw [decide_eq_true_iff] at heq
    exact hq (hdq.unique hd (heq ▸ hkq) hp)
  have hall : (shownAt c p).filter (fun call => call.key = k) = shownAt c p := by
    rw [List.filter_eq_self]
    intro call hcall
    obtain ⟨-, -, hkp⟩ := mem_shownAt hcall
    rw [hp] at hkp
    simpa using (Option.some.inj hkp).symm
  have hnodup : c.places.Nodup := places_pairwise.imp fun hb he => by
    subst he
    unfold Before at hb
    omega
  rw [dueCalls, List.filter_flatMap, flatMap_eq_of_mem hnodup hplaces hothers, hall,
    map_shownAt hd hp]

end Calls

/-! ### Compilations that are settled -/

/-- Every module is remembered. -/
def Settled (c : Compilation) : Prop := ∀ p, ∀ k ∈ keyAt c.entries p, k ∈ c.visited

section Settled

variable {c : Compilation}

lemma settled_process (c : Compilation) : Settled c.process.1 := by
  intro p k hk
  have h := progress_process c
  rw [h.keyAt_eq] at hk
  exact (h.visited k).mpr (.inr ⟨p, mem_places_iff.mpr (by rw [hk]; rfl), hk⟩)

lemma Settled.visit (h : Settled c) (p : Nat × Nat) : c.visit p = (c, []) := by
  cases hx : moduleAt c.entries p with
  | none => exact visit_of_none c hx
  | some x =>
    exact visit_of_mem c (keyAt_of_moduleAt hx) (h p _ (keyAt_of_moduleAt hx))

lemma Settled.visitAll (h : Settled c) (ps : List (Nat × Nat)) : c.visitAll ps = (c, []) := by
  induction ps with
  | nil => rfl
  | cons p ps ih => simp [Compilation.visitAll, h.visit, ih]

lemma Settled.dueCalls_eq_nil (h : Settled c) : dueCalls c = [] := by
  rw [List.eq_nil_iff_forall_not_mem]
  intro call hcall
  obtain ⟨hk, hnew, -⟩ := mem_dueCalls hcall
  exact hnew (h call.place _ hk)

end Settled

/-! ### Operations -/

/-- The calls of one operation. -/
def callsOf (b : Bench) : Operation → List Call
  | .tap _ => []
  | .process => dueCalls b.compilation

def callsOver (b : Bench) : List Operation → List Call
  | [] => []
  | o :: more => callsOf b o ++ callsOver (b.operate o) more

section Operations

variable {b : Bench}

lemma operateVia_record (b : Bench) (o : Operation) (log : List Call) :
    (b.operateVia record o).run log = (b.operate o, log ++ callsOf b o) := by
  cases o with
  | tap tap =>
    rw [callsOf, List.append_nil]
    rfl
  | process =>
    have hstep : (b.operateVia record .process).run log =
        let (v, log) := (processVia record b.compilation).run log
        (⟨v.1, heard b.handler v.2⟩, log) := rfl
    rw [hstep, processVia_record]
    rfl

lemma operateAllVia_record (b : Bench) (ops : List Operation) (log : List Call) :
    (b.operateAllVia record ops).run log = (b.operateAll ops, log ++ callsOver b ops) := by
  induction ops generalizing b log with
  | nil =>
    rw [callsOver, List.append_nil]
    rfl
  | cons o ops ih =>
    have hstep : (b.operateAllVia record (o :: ops)).run log =
        let (b, log) := (b.operateVia record o).run log
        (b.operateAllVia record ops).run log := rfl
    rw [hstep, operateVia_record]
    dsimp only
    rw [ih, callsOver, List.append_assoc]
    rfl

lemma operateAll_append (b : Bench) (front back : List Operation) :
    b.operateAll (front ++ back) = (b.operateAll front).operateAll back :=
  List.foldl_append

lemma callsOver_append (b : Bench) (front back : List Operation) :
    callsOver b (front ++ back) = callsOver b front ++ callsOver (b.operateAll front) back := by
  induction front generalizing b with
  | nil => rfl
  | cons o front ih =>
    rw [List.cons_append, callsOver, callsOver, ih, List.append_assoc]
    rfl

/-- Taps that are added change nothing but the taps. -/
lemma operateAll_of_notMem {front : List Operation} (h : .process ∉ front) :
    ∃ taps, b.operateAll front =
        { b with compilation := { b.compilation with taps := b.compilation.taps ++ taps } } ∧
      callsOver b front = [] := by
  induction front generalizing b with
  | nil => exact ⟨[], by simp [Bench.operateAll], rfl⟩
  | cons o front ih =>
    rw [List.mem_cons, not_or] at h
    cases o with
    | process => exact absurd rfl h.1
    | tap tap =>
      obtain ⟨taps, hafter, hcalls⟩ := ih (b := b.operate (.tap tap)) h.2
      refine ⟨tap :: taps, ?_, hcalls⟩
      change (b.operate (.tap tap)).operateAll front = _
      rw [hafter]
      simp [Bench.operate, Compilation.addTap]

lemma taps_operate (b : Bench) (o : Operation) :
    b.compilation.taps <+: (b.operate o).compilation.taps := by
  cases o with
  | tap tap => exact List.prefix_append _ _
  | process =>
    have htaps : b.compilation.process.1.taps = b.compilation.taps := (progress_process _).taps
    exact ⟨[], (List.append_nil _).trans htaps.symm⟩

lemma taps_operateAll (b : Bench) (ops : List Operation) :
    b.compilation.taps <+: (b.operateAll ops).compilation.taps := by
  induction ops generalizing b with
  | nil => exact List.prefix_refl _
  | cons o ops ih => exact (taps_operate b o).trans (ih (b.operate o))

lemma Unchanged.refl (b : Bench) : Unchanged b b := ⟨rfl, rfl, rfl, rfl, rfl⟩

lemma Unchanged.trans {b₁ b₂ b₃ : Bench} (h : Unchanged b₁ b₂) (h' : Unchanged b₂ b₃) :
    Unchanged b₁ b₃ :=
  ⟨h'.entries.trans h.entries, h'.mutated.trans h.mutated, h'.errors.trans h.errors,
    h'.render.trans h.render, h'.diagnostics.trans h.diagnostics⟩

lemma Settled.operate (h : Settled b.compilation) (o : Operation) :
    Settled (b.operate o).compilation ∧ Unchanged b (b.operate o) ∧ callsOf b o = [] := by
  cases o with
  | tap tap => exact ⟨h, ⟨rfl, rfl, rfl, rfl, rfl⟩, rfl⟩
  | process =>
    have hprocess : b.operate .process = b := by
      change Bench.mk _ _ = b
      rw [Compilation.process, h.visitAll]
      rfl
    rw [hprocess]
    exact ⟨h, .refl b, h.dueCalls_eq_nil⟩

/-- Where every module is remembered, nothing happens any more. -/
lemma Settled.operateAll (h : Settled b.compilation) (ops : List Operation) :
    Settled (b.operateAll ops).compilation ∧ Unchanged b (b.operateAll ops) ∧
      callsOver b ops = [] := by
  induction ops generalizing b with
  | nil => exact ⟨h, .refl b, rfl⟩
  | cons o ops ih =>
    obtain ⟨hsettled, hsame, hnone⟩ := h.operate o
    obtain ⟨hsettled', hsame', hnone'⟩ := ih hsettled
    refine ⟨hsettled', hsame.trans hsame', ?_⟩
    rw [callsOver, hnone, hnone']
    rfl

lemma settled_of_mem {ops : List Operation} (h : .process ∈ ops) :
    Settled (b.operateAll ops).compilation := by
  obtain ⟨front, back, rfl⟩ := List.append_of_mem h
  rw [operateAll_append]
  exact (Settled.operateAll (b := (b.operateAll front).operate .process)
    (settled_process _) back).1

/-- Only the first processing calls taps. -/
lemma callsOver_eq_dueCalls {front back : List Operation} (hfront : .process ∉ front) :
    callsOver b (front ++ .process :: back) = dueCalls (b.operateAll front).compilation := by
  obtain ⟨taps, -, hnone⟩ := operateAll_of_notMem (b := b) hfront
  have hback := (Settled.operateAll (b := (b.operateAll front).operate .process)
    (settled_process _) back).2.2
  rw [callsOver_append, callsOver, hnone, hback, List.append_nil]
  rfl

/-- The calls of some operations are none, or those that are due when the taps in front of the first
processing are there. -/
lemma exists_dueCalls (b : Bench) (ops : List Operation) :
    callsOver b ops = [] ∨ ∃ c, callsOver b ops = dueCalls c ∧
      c.entries = b.compilation.entries ∧ c.visited = b.compilation.visited ∧
      c.taps <+: (b.operateAll ops).compilation.taps := by
  by_cases h : .process ∈ ops
  · obtain ⟨front, back, rfl, hfront⟩ := List.eq_append_cons_of_mem h
    obtain ⟨taps, hafter, -⟩ := operateAll_of_notMem (b := b) hfront
    refine .inr ⟨(b.operateAll front).compilation, callsOver_eq_dueCalls hfront, ?_, ?_, ?_⟩
    · rw [hafter]
    · rw [hafter]
    · rw [operateAll_append]
      exact taps_operateAll _ _
  · obtain ⟨-, -, hnone⟩ := operateAll_of_notMem (b := b) h
    exact .inl hnone

lemma nodup_callsOver (b : Bench) (ops : List Operation) :
    ((callsOver b ops).map fun call => (call.slot, call.key)).Nodup := by
  rcases exists_dueCalls b ops with hnone | ⟨c, hcalls, -, -, -⟩
  · rw [hnone]
    exact List.nodup_nil
  · rw [hcalls]
    exact nodup_dueCalls

lemma mem_callsOver {ops : List Operation} {call : Call} (h : call ∈ callsOver b ops) :
    keyAt b.compilation.entries call.place = some call.key ∧ call.key ∉ b.compilation.visited ∧
      (b.operateAll ops).compilation.taps[call.slot]? = some call.tap := by
  rcases exists_dueCalls b ops with hnone | ⟨c, hcalls, hentries, hvisited, later, htaps⟩
  · rw [hnone] at h
    cases h
  · rw [hcalls] at h
    obtain ⟨hk, hnew, htap⟩ := mem_dueCalls h
    rw [hentries] at hk
    rw [hvisited] at hnew
    refine ⟨hk, hnew, ?_⟩
    rw [← htaps, List.getElem?_append_left (List.getElem?_eq_some_iff.mp htap).1, htap]

/-- Whatever is done with a compilation, no tap sees a module twice, a module is seen by the taps that
there are when it is first processed, and a processing leaves nothing for later ones to do. -/
theorem operateAll_shownOnce (b : Bench) (ops : List Operation) :
    (b.recorded ops).1 = b.operateAll ops ∧
      ShownOnce b ops (b.operateAll ops) (b.recorded ops).2 := by
  rw [Bench.recorded, operateAllVia_record, List.nil_append]
  refine ⟨rfl, ?_⟩
  constructor
  · exact nodup_callsOver b ops
  · intro call hcall
    exact (mem_callsOver hcall).2.2
  · intro call hcall
    obtain ⟨hk, hnew, -⟩ := mem_callsOver hcall
    exact ⟨hk, hnew⟩
  · intro h
    obtain ⟨-, -, hnone⟩ := operateAll_of_notMem (b := b) h
    exact hnone
  · intro front back hops hfront place k hk hnew
    obtain ⟨taps, hafter, -⟩ := operateAll_of_notMem (b := b) hfront
    have hk' : keyAt (b.operateAll front).compilation.entries place = some k := by
      rw [hafter]
      exact hk
    have hnew' : k ∉ (b.operateAll front).compilation.visited := by
      rw [hafter]
      exact hnew
    rw [hops, callsOver_eq_dueCalls hfront]
    exact filter_dueCalls hk' hnew'
  · intro front back hops hfront
    rw [hops, operateAll_append]
    exact ((settled_of_mem hfront).operateAll back).2.1

end Operations

end PublicPath.Proofs
