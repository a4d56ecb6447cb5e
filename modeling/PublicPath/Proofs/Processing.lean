import Mathlib.Data.List.Nodup
import Mathlib.Tactic.Common
import PublicPath.Build.Compilation

/-!
# Processing a compilation

A compilation remembers a module by its key, the chunk's id with the module's index. `Progress` says
what is left of a compilation when some of its places were visited: the modules that were due hold
what the taps made of them, all others are as they were, and what the taps answered is recorded in
the order of the places.
-/

namespace PublicPath.Proofs

/-! ### Places -/

/-- The module at a place, with its chunk. -/
def moduleAt (entries : List ChunkEntry) (place : Nat × Nat) : Option (Chunk × RuntimeModule) :=
  entries[place.1]?.bind fun e => e.modules[place.2]?.map (e.chunk, ·)

/-- How a compilation remembers the module at a place. -/
def keyAt (entries : List ChunkEntry) (place : Nat × Nat) : Option (Nat × Nat) :=
  (moduleAt entries place).map fun x => (x.1.id, place.2)

/-- No entry in front has a module with the key of this place. -/
def IsFirst (entries : List ChunkEntry) (place : Nat × Nat) : Prop :=
  ∀ i < place.1, keyAt entries (i, place.2) ≠ keyAt entries place

instance (entries : List ChunkEntry) (place : Nat × Nat) : Decidable (IsFirst entries place) :=
  inferInstanceAs (Decidable (∀ i < place.1, _))

/-- Places in the order in which they are visited. -/
def Before (p q : Nat × Nat) : Prop := p.1 < q.1 ∨ p.1 = q.1 ∧ p.2 < q.2

def setModule (entries : List ChunkEntry) (place : Nat × Nat) (m : RuntimeModule) :
    List ChunkEntry :=
  entries.modify place.1 fun e => { e with modules := e.modules.set place.2 m }

/-- The chunks with the numbers of their modules. -/
def shape (entries : List ChunkEntry) : List (Chunk × Nat) :=
  entries.map fun e => (e.chunk, e.modules.length)

section Places

variable {entries : List ChunkEntry} {place : Nat × Nat}

lemma moduleAt_eq_some_iff {chunk : Chunk} {m : RuntimeModule} :
    moduleAt entries place = some (chunk, m) ↔
      ∃ e, entries[place.1]? = some e ∧ e.modules[place.2]? = some m ∧ e.chunk = chunk := by
  simp [moduleAt, Option.bind_eq_some_iff]

lemma keyAt_of_moduleAt {x : Chunk × RuntimeModule} (h : moduleAt entries place = some x) :
    keyAt entries place = some (x.1.id, place.2) := by
  rw [keyAt, h]
  rfl

lemma snd_of_keyAt {k : Nat × Nat} (h : keyAt entries place = some k) : place.2 = k.2 := by
  obtain ⟨x, -, rfl⟩ := Option.map_eq_some_iff.mp h
  rfl

/-- Where no two chunks share an id, every module is the first with its key. -/
lemma isFirst_of_nodup (h : (entries.map (·.chunk.id)).Nodup) {x : Chunk × RuntimeModule}
    (hx : moduleAt entries place = some x) : IsFirst entries place := by
  intro i hi hkey
  rw [keyAt, keyAt, hx] at hkey
  obtain ⟨y, hy, hid⟩ := Option.map_eq_some_iff.mp hkey
  obtain ⟨e, he, -, he'⟩ := moduleAt_eq_some_iff.mp hy
  obtain ⟨f, hf, -, hf'⟩ := moduleAt_eq_some_iff.mp hx
  have hids : (entries.map (·.chunk.id))[i]? = (entries.map (·.chunk.id))[place.1]? := by
    have hid' : y.1.id = x.1.id := (Prod.ext_iff.mp hid).1
    simp [he, hf, he', hf', hid']
  have hlength : i < (entries.map (·.chunk.id)).length := by
    simpa using (List.getElem?_eq_some_iff.mp he).1
  have heq := (List.getElem?_inj hlength h).mp hids
  omega

lemma shape_setModule (m : RuntimeModule) :
    shape (setModule entries place m) = shape entries := by
  apply List.ext_getElem?
  intro i
  simp only [shape, setModule, List.getElem?_map, List.getElem?_modify]
  cases entries[i]? with
  | none => rfl
  | some e => by_cases h : place.1 = i <;> simp [h]

lemma moduleAt_setModule_self (m : RuntimeModule) :
    moduleAt (setModule entries place m) place = (moduleAt entries place).map fun x => (x.1, m) := by
  simp only [moduleAt, setModule, List.getElem?_modify]
  cases entries[place.1]? with
  | none => rfl
  | some e =>
    by_cases h : place.2 < e.modules.length <;> simp [h]

lemma moduleAt_setModule_of_ne {other : Nat × Nat} (h : other ≠ place) (m : RuntimeModule) :
    moduleAt (setModule entries place m) other = moduleAt entries other := by
  simp only [moduleAt, setModule, List.getElem?_modify]
  cases entries[other.1]? with
  | none => rfl
  | some e =>
    by_cases h₁ : place.1 = other.1
    · have h₂ : place.2 ≠ other.2 := fun h₂ => h (Prod.ext h₁ h₂).symm
      simp [h₁, List.getElem?_set_ne h₂]
    · simp [h₁]

end Places

lemma flatMap_eq_of_mem {α β : Type} {xs : List α} (hn : xs.Nodup) {x : α} (hx : x ∈ xs)
    {f : α → List β} (h : ∀ y ∈ xs, y ≠ x → f y = []) : xs.flatMap f = f x := by
  obtain ⟨front, back, rfl⟩ := List.append_of_mem hx
  rw [List.nodup_middle, List.nodup_cons, List.mem_append] at hn
  have hfront : front.flatMap f = [] := List.flatMap_eq_nil_iff.mpr fun y hy =>
    h y (List.mem_append_left _ hy) (fun he => hn.1 (.inl (he ▸ hy)))
  have hback : back.flatMap f = [] := List.flatMap_eq_nil_iff.mpr fun y hy =>
    h y (List.mem_append_right _ (List.mem_cons_of_mem x hy)) (fun he => hn.1 (.inr (he ▸ hy)))
  rw [List.flatMap_append, List.flatMap_cons, hfront, hback, List.nil_append, List.append_nil]

/-! ### One visit -/

section Visit

variable (c : Compilation) {place : Nat × Nat}

/-- What is logged when a module is shown. -/
def visitLine (x : Chunk × RuntimeModule) : LogLine :=
  ⟨.debug, s!"Runtime module {x.2.kind.title} in chunk {x.1.label}"⟩

/-- What the taps make of a module. -/
def showing (x : Chunk × RuntimeModule) : Showing := showAll c.taps x.1 x.2

/-- The compilation behind a visit that showed a module. -/
def afterVisit (place : Nat × Nat) (x : Chunk × RuntimeModule) : Compilation :=
  { c with
    entries := setModule c.entries place (showing c x).module
    visited := (x.1.id, place.2) :: c.visited
    mutated := c.mutated ++ (showing c x).mutated
    errors := c.errors ++ (showing c x).errors }

lemma visit_of_none (h : moduleAt c.entries place = none) : c.visit place = (c, []) := by
  unfold Compilation.visit
  split
  · rfl
  · rename_i e he
    split
    · rfl
    · rename_i m hm
      simp [moduleAt, he, hm] at h

lemma visit_of_mem {k : Nat × Nat} (h : keyAt c.entries place = some k) (hk : k ∈ c.visited) :
    c.visit place = (c, []) := by
  unfold Compilation.visit
  split
  · rfl
  · rename_i e he
    split
    · rfl
    · rename_i m hm
      simp only [keyAt, moduleAt, he, hm, Option.bind_some, Option.map_some, Option.some.injEq] at h
      rw [if_pos (h ▸ hk)]

lemma visit_of_notMem {x : Chunk × RuntimeModule} (h : moduleAt c.entries place = some x)
    (hk : (x.1.id, place.2) ∉ c.visited) :
    c.visit place = (afterVisit c place x, .log (visitLine x) :: (showing c x).events) := by
  obtain ⟨chunk, m⟩ := x
  obtain ⟨e, he, hm, rfl⟩ := moduleAt_eq_some_iff.mp h
  have hset : ∀ m', c.entries.set place.1 { e with modules := e.modules.set place.2 m' } =
      setModule c.entries place m' := by
    intro m'
    rw [setModule, List.modify_eq_set_getElem?, he]
    rfl
  unfold Compilation.visit
  simp only [he, hm]
  rw [if_neg hk, hset]
  rfl

end Visit

/-! ### Runs of visits -/

/-- The module at a place is shown by the next processing. -/
def IsDue (c : Compilation) (place : Nat × Nat) : Prop :=
  (∀ k ∈ keyAt c.entries place, k ∉ c.visited) ∧ IsFirst c.entries place

instance (c : Compilation) (place : Nat × Nat) : Decidable (IsDue c place) :=
  inferInstanceAs (Decidable (_ ∧ _))

/-- The modules that are due at some places, with their chunks. -/
def dueModules (c : Compilation) (places : List (Nat × Nat)) : List (Chunk × RuntimeModule) :=
  (places.filter fun p => IsDue c p).filterMap (moduleAt c.entries)

/-- What became of `c`, and what was told, when the places `done` were visited. -/
structure Progress (c : Compilation) (done : List (Nat × Nat)) (c' : Compilation)
    (told : List BuildEvent) : Prop where
  id : c'.id = c.id
  taps : c'.taps = c.taps
  shape : shape c'.entries = shape c.entries
  module (q : Nat × Nat) : moduleAt c'.entries q = (moduleAt c.entries q).map fun x =>
    (x.1, if q ∈ done ∧ IsDue c q then (showing c x).module else x.2)
  visited (k : Nat × Nat) :
    k ∈ c'.visited ↔ k ∈ c.visited ∨ ∃ q ∈ done, keyAt c.entries q = some k
  mutated : c'.mutated = c.mutated ++ (dueModules c done).flatMap fun x => (showing c x).mutated
  errors : c'.errors = c.errors ++ (dueModules c done).flatMap fun x => (showing c x).errors
  told : told = (dueModules c done).flatMap fun x => .log (visitLine x) :: (showing c x).events

section Run

variable {c c' : Compilation} {done : List (Nat × Nat)} {told : List BuildEvent} {p : Nat × Nat}

lemma mem_places_iff : p ∈ c.places ↔ (keyAt c.entries p).isSome = true := by
  obtain ⟨i, j⟩ := p
  simp only [Compilation.places, List.mem_flatMap, List.mem_map, List.mem_range, keyAt, moduleAt,
    Option.isSome_map, Option.isSome_bind, Option.any_eq_true]
  constructor
  · rintro ⟨⟨e, i'⟩, he, j', hj, h⟩
    cases h
    refine ⟨e, by simpa using List.mem_zipIdx_iff_getElem?.mp he, ?_⟩
    simp [hj]
  · rintro ⟨e, he, hj⟩
    refine ⟨(e, i), List.mem_zipIdx_iff_getElem?.mpr (by simpa using he), j, ?_, rfl⟩
    simpa using hj

/-- Going through the places of a compilation is going through its entries and their modules. -/
lemma flatMap_places {α : Type} (f : Nat × Nat → Chunk × RuntimeModule → List α) :
    (c.places.flatMap fun p => (moduleAt c.entries p).elim [] (f p)) =
      c.entries.zipIdx.flatMap fun (e, i) => e.modules.zipIdx.flatMap fun (m, j) =>
        f (i, j) (e.chunk, m) := by
  rw [Compilation.places, List.flatMap_assoc]
  apply List.flatMap_congr
  rintro ⟨e, i⟩ he
  have hi : c.entries[i]? = some e := by simpa using List.mem_zipIdx_iff_getElem?.mp he
  have hindices : List.range e.modules.length = e.modules.zipIdx.map Prod.snd := by
    rw [List.zipIdx_map_snd, List.range_eq_range']
  dsimp only
  rw [hindices, List.map_map, List.flatMap_map]
  apply List.flatMap_congr
  rintro ⟨m, j⟩ hm
  have hj : e.modules[j]? = some m := by simpa using List.mem_zipIdx_iff_getElem?.mp hm
  simp [moduleAt, hi, hj]

lemma flatMap_dueModules_eq {α : Type} (ps : List (Nat × Nat)) (f : Chunk × RuntimeModule → List α) :
    (dueModules c ps).flatMap f = ps.flatMap fun p =>
      (moduleAt c.entries p).elim [] fun x => if IsDue c p then f x else [] := by
  rw [dueModules, List.filterMap_filter, List.filterMap_eq_flatMap_toList, List.flatMap_assoc]
  congr 1
  funext p
  by_cases hd : IsDue c p <;> cases hx : moduleAt c.entries p <;> simp [hd]

lemma places_pairwise : c.places.Pairwise Before := by
  have hindex : c.entries.zipIdx.Pairwise fun x y => x.2 < y.2 := by
    rw [← List.pairwise_map (f := Prod.snd) (R := (· < ·)), List.zipIdx_map_snd]
    exact List.pairwise_lt_range'
  rw [Compilation.places, List.pairwise_flatMap]
  constructor
  · rintro ⟨e, i⟩ _
    rw [List.pairwise_map]
    exact List.pairwise_lt_range.imp fun h => .inr ⟨rfl, h⟩
  · refine hindex.imp ?_
    intro x y h p hp q hq
    obtain ⟨j, -, rfl⟩ := List.mem_map.mp hp
    obtain ⟨k, -, rfl⟩ := List.mem_map.mp hq
    exact .inl h

lemma mem_front_iff {ps : List (Nat × Nat)} (h : c.places = done ++ p :: ps) (q : Nat × Nat) :
    q ∈ done ↔ q ∈ c.places ∧ Before q p := by
  have hp := places_pairwise (c := c)
  rw [h, List.pairwise_append, List.pairwise_cons] at hp
  obtain ⟨-, ⟨hback, -⟩, hfront⟩ := hp
  rw [h, List.mem_append, List.mem_cons]
  constructor
  · intro hq
    exact ⟨.inl hq, hfront q hq p List.mem_cons_self⟩
  · rintro ⟨hq | rfl | hq, hb⟩
    · exact hq
    · unfold Before at hb
      omega
    · have hb' := hback q hq
      unfold Before at hb hb'
      omega

lemma Progress.start (c : Compilation) : Progress c [] c [] := by
  constructor <;> simp [dueModules]

lemma Progress.keyAt_eq (h : Progress c done c' told) (q : Nat × Nat) :
    keyAt c'.entries q = keyAt c.entries q := by
  unfold keyAt
  rw [h.module, Option.map_map]
  rfl

/-- The key of the place that is next is remembered unless the place is due. -/
lemma Progress.mem_visited_iff (h : Progress c done c' told)
    (hdone : ∀ q, q ∈ done ↔ q ∈ c.places ∧ Before q p) {k : Nat × Nat}
    (hk : keyAt c.entries p = some k) : k ∈ c'.visited ↔ ¬ IsDue c p := by
  have hfirst : IsFirst c.entries p ↔ ∀ q ∈ done, keyAt c.entries q ≠ some k := by
    rw [IsFirst, hk]
    constructor
    · intro hf q hq hqk
      obtain ⟨-, hb⟩ := (hdone q).mp hq
      have hi : q.2 = p.2 := (snd_of_keyAt hqk).trans (snd_of_keyAt hk).symm
      refine hf q.1 (by unfold Before at hb; omega) ?_
      rwa [← hi]
    · intro hf i hi hik
      refine hf (i, p.2) ((hdone _).mpr ⟨?_, .inl hi⟩) hik
      rw [mem_places_iff, hik]
      rfl
  have hdue : IsDue c p ↔ k ∉ c.visited ∧ ∀ q ∈ done, keyAt c.entries q ≠ some k := by
    rw [IsDue, hfirst, hk]
    simp
  rw [h.visited, hdue]
  simp only [not_and_or, not_not, not_forall, exists_prop, ne_eq]

lemma Progress.skip (h : Progress c done c' told)
    (hp : ∀ k, keyAt c.entries p = some k → k ∈ c'.visited ∧ ¬ IsDue c p) :
    Progress c (done ++ [p]) c' told := by
  have hnone : IsDue c p → moduleAt c.entries p = none := by
    intro hd
    cases hx : moduleAt c.entries p with
    | none => rfl
    | some x => exact absurd hd (hp _ (keyAt_of_moduleAt hx)).2
  have hnew : dueModules c (done ++ [p]) = dueModules c done := by
    by_cases hd : IsDue c p
    · simp [dueModules, hd, hnone hd]
    · simp [dueModules, hd]
  constructor
  · exact h.id
  · exact h.taps
  · exact h.shape
  · intro q
    rw [h.module]
    by_cases hq : q = p
    · subst hq
      by_cases hd : IsDue c q
      · simp [hnone hd]
      · simp [hd]
    · simp [hq]
  · intro k
    rw [h.visited]
    constructor
    · rintro (hk | ⟨q, hq, hk⟩)
      · exact .inl hk
      · exact .inr ⟨q, List.mem_append_left _ hq, hk⟩
    · rintro (hk | ⟨q, hq, hk⟩)
      · exact .inl hk
      · rcases List.mem_append.mp hq with hq | hq
        · exact .inr ⟨q, hq, hk⟩
        · rw [List.mem_singleton.mp hq] at hk
          exact (h.visited k).mp (hp k hk).1
  · rw [hnew, h.mutated]
  · rw [hnew, h.errors]
  · rw [hnew]
    exact h.told

lemma Progress.show (h : Progress c done c' told) {x : Chunk × RuntimeModule}
    (hx : moduleAt c.entries p = some x) (hdue : IsDue c p) (hp : p ∉ done) :
    Progress c (done ++ [p]) (afterVisit c' p x)
      (told ++ .log (visitLine x) :: (showing c' x).events) := by
  have hnew : dueModules c (done ++ [p]) = dueModules c done ++ [x] := by
    simp [dueModules, hdue, hx]
  have hshowing : showing c' x = showing c x := by
    rw [showing, showing, h.taps]
  constructor
  · exact h.id
  · exact h.taps
  · exact (shape_setModule _).trans h.shape
  · intro q
    simp only [afterVisit, hshowing]
    by_cases hq : q = p
    · subst hq
      simp [moduleAt_setModule_self, h.module, hdue, hx]
    · rw [moduleAt_setModule_of_ne hq, h.module]
      simp [hq]
  · intro k
    have hk := keyAt_of_moduleAt hx
    simp only [afterVisit, List.mem_cons, h.visited, List.mem_append, List.not_mem_nil, or_false]
    constructor
    · rintro (rfl | hk' | ⟨q, hq, hk'⟩)
      · exact .inr ⟨p, .inr rfl, hk⟩
      · exact .inl hk'
      · exact .inr ⟨q, .inl hq, hk'⟩
    · rintro (hk' | ⟨q, hq | rfl, hk'⟩)
      · exact .inr (.inl hk')
      · exact .inr (.inr ⟨q, hq, hk'⟩)
      · rw [hk] at hk'
        exact .inl (Option.some.inj hk').symm
  · simp [afterVisit, hnew, hshowing, h.mutated]
  · simp [afterVisit, hnew, hshowing, h.errors]
  · simp [hnew, hshowing, h.told]

/-- The place that is next has no module, or its key is remembered, or its module is due and still as
it was. -/
lemma Progress.next_cases (h : Progress c done c' told)
    (hdone : ∀ q, q ∈ done ↔ q ∈ c.places ∧ Before q p) :
    (moduleAt c.entries p = none ∧ moduleAt c'.entries p = none) ∨
      (∃ k, keyAt c.entries p = some k ∧ keyAt c'.entries p = some k ∧ k ∈ c'.visited ∧
        ¬ IsDue c p) ∨
      ∃ x, moduleAt c.entries p = some x ∧ moduleAt c'.entries p = some x ∧
        (x.1.id, p.2) ∉ c'.visited ∧ IsDue c p ∧ p ∉ done := by
  have hmodule := h.module p
  have hkey := h.keyAt_eq p
  cases hx : moduleAt c.entries p with
  | none =>
    rw [hx] at hmodule
    exact .inl ⟨rfl, hmodule⟩
  | some x =>
    have hk := keyAt_of_moduleAt hx
    have hseen := h.mem_visited_iff hdone hk
    by_cases hd : IsDue c p
    · have hp : p ∉ done := by
        intro hp
        have hb := ((hdone p).mp hp).2
        unfold Before at hb
        omega
      have hx' : moduleAt c'.entries p = some x := by simp [hmodule, hp, hx]
      exact .inr (.inr ⟨x, rfl, hx', fun hm => hseen.mp hm hd, hd, hp⟩)
    · exact .inr (.inl ⟨_, hk, hkey.trans hk, hseen.mpr hd, hd⟩)

lemma Progress.visit (h : Progress c done c' told)
    (hdone : ∀ q, q ∈ done ↔ q ∈ c.places ∧ Before q p) :
    Progress c (done ++ [p]) (c'.visit p).1 (told ++ (c'.visit p).2) := by
  rcases h.next_cases hdone with ⟨hnone, hnone'⟩ | ⟨k, hk, hk', hm, hd⟩ | ⟨x, hx, hx', hm, hd, hp⟩
  · rw [visit_of_none c' hnone', List.append_nil]
    refine h.skip ?_
    rw [keyAt, hnone]
    intro k hc
    cases hc
  · rw [visit_of_mem c' hk' hm, List.append_nil]
    refine h.skip ?_
    rw [hk]
    intro k' hk'
    cases hk'
    exact ⟨hm, hd⟩
  · rw [visit_of_notMem c' hx' hm]
    exact h.show hx hd hp

lemma Progress.visitAll (h : Progress c done c' told) {ps : List (Nat × Nat)}
    (hps : c.places = done ++ ps) :
    Progress c c.places (c'.visitAll ps).1 (told ++ (c'.visitAll ps).2) := by
  -- On the places that are left; those in front of them index the invariant.
  induction ps generalizing done c' told with
  | nil =>
    rw [List.append_nil] at hps
    rw [hps]
    simpa [Compilation.visitAll] using h
  | cons p ps ih =>
    have hvisit := h.visit (mem_front_iff hps)
    have hrest := ih hvisit (by simpa using hps)
    simpa [Compilation.visitAll] using hrest

/-- What processing makes of a compilation. -/
theorem progress_process (c : Compilation) : Progress c c.places c.process.1 c.process.2 :=
  (Progress.start c).visitAll rfl

/-- The modules that are due hold what the taps made of them, and all others are as they were. -/
theorem moduleAt_process (c : Compilation) (q : Nat × Nat) :
    moduleAt c.process.1.entries q = (moduleAt c.entries q).map fun x =>
      (x.1, if IsDue c q then (showing c x).module else x.2) := by
  rw [(progress_process c).module]
  cases hx : moduleAt c.entries q with
  | none => rfl
  | some x =>
    have hq : q ∈ c.places := by
      rw [mem_places_iff, keyAt_of_moduleAt hx]
      rfl
    simp [hq]

lemma mem_dueModules {x : Chunk × RuntimeModule} {q : Nat × Nat}
    (hx : moduleAt c.entries q = some x) (hq : IsDue c q) : x ∈ dueModules c c.places := by
  have hplace : q ∈ c.places := by
    rw [mem_places_iff, keyAt_of_moduleAt hx]
    rfl
  rw [dueModules, List.mem_filterMap]
  exact ⟨q, List.mem_filter.mpr ⟨hplace, by simpa using hq⟩, hx⟩

/-- In a compilation that visited nothing yet, the first module with a key is due. -/
lemma isDue_iff_isFirst (h : c.visited = []) {q : Nat × Nat} :
    IsDue c q ↔ IsFirst c.entries q := by
  simp [IsDue, h]

end Run

end PublicPath.Proofs
