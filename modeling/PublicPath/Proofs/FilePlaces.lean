import PublicPath.Files.Tree
import PublicPath.Proofs.PathComponents

/-!
# Places of files

A path names a place by its text alone, for no directory leads elsewhere than its name says. What is
found under the path depends on the places that a walk along it steps from, all of which must be
directories, and on the place where it ends.
-/

namespace PublicPath.Proofs
open PublicPath.Path

/-- Where a component leads. -/
def move (place : List String) : Component → List String
  | .root => []
  | .current => place
  | .parent => place.dropLast
  | .name s => place ++ [s]

/-- The places that a walk steps from. -/
def origins (place : List String) : List Component → List (List String)
  | [] => []
  | c :: cs => place :: origins (move place c) cs

/-- The place that a path names. -/
def placeOf (working : List String) (path : String) : List String :=
  (components path).foldl move working

/-- The directories that a path goes through. -/
def wayTo (working : List String) (path : String) : List (List String) :=
  origins working (components path)

/-- A file system whose working directory exists, and every node of which stands in a directory. -/
structure IsTree (f : Files) : Prop where
  working : f.isDirectory f.working = true
  parent (p : List String) : (f.node? p).isSome → f.isDirectory p.dropLast = true

/-! ### Nodes -/

section Nodes

variable {f : Files} {p q : List String} {n : FileNode}

lemma isDirectory_iff : f.isDirectory p = true ↔ f.node? p = some .directory := by
  rw [Files.isDirectory]
  cases f.node? p with
  | none => simp
  | some n => cases n <;> simp [FileNode.isDirectory]

lemma isDirectory_of_file {content : ByteArray} (h : f.node? p = some (.file content)) :
    f.isDirectory p = false := by
  simp [Files.isDirectory, h, FileNode.isDirectory]

lemma isDirectory_congr {g : Files} (h : g.node? p = f.node? p) :
    g.isDirectory p = f.isDirectory p := by
  rw [Files.isDirectory, Files.isDirectory, h]

@[simp] lemma isDirectory_nil : f.isDirectory [] = true := by
  simp [Files.isDirectory, Files.node?, FileNode.isDirectory]

lemma ne_nil_of_missing (h : f.node? p = none) : p ≠ [] := by
  rintro rfl
  cases h

lemma lookup_filter_ne (nodes : List (List String × FileNode)) (h : q ≠ p) :
    (nodes.filter fun x => x.1 ≠ p).lookup q = nodes.lookup q := by
  induction nodes with
  | nil => rfl
  | cons x nodes ih =>
    by_cases hx : x.1 = p
    · have hne : (q == x.1) = false := by simpa [hx] using h
      rw [List.filter_cons_of_neg (by simpa using hx), ih, List.lookup_cons, hne]
    · rw [List.filter_cons_of_pos (by simpa using hx), List.lookup_cons, List.lookup_cons, ih]

lemma node?_set_self (h : p ≠ []) : (f.set p n).node? p = some n := by
  simp [Files.node?, Files.set, h]

lemma node?_set_of_ne (h : q ≠ p) : (f.set p n).node? q = f.node? q := by
  have hne : (q == p) = false := by simpa using h
  simp only [Files.node?, Files.set, List.lookup_cons, hne, lookup_filter_ne f.nodes h]

/-- Whether every node stands in a directory can be told from the list of nodes. -/
lemma isTree_of_nodes (hworking : f.isDirectory f.working = true)
    (h : ∀ x ∈ f.nodes, f.isDirectory x.1.dropLast = true) : IsTree f := by
  refine ⟨hworking, fun p hp => ?_⟩
  by_cases hnil : p = []
  · rw [hnil]
    exact isDirectory_nil
  · rw [Files.node?, if_neg hnil] at hp
    obtain ⟨n, hn⟩ := Option.isSome_iff_exists.mp hp
    obtain ⟨front, back, hnodes, -⟩ := List.lookup_eq_some_iff.mp hn
    exact h (p, n) (by simp [hnodes])

end Nodes

/-! ### Walks -/

section Walks

variable {f g : Files} {place p : List String}

lemma origins_append (place : List String) (cs ds : List Component) :
    origins place (cs ++ ds) = origins place cs ++ origins (cs.foldl move place) ds := by
  induction cs generalizing place with
  | nil => rfl
  | cons c cs ih => simp [origins, ih]

lemma step_eq_ok_iff {c : Component} : f.step place c = .ok p ↔
    f.isDirectory place = true ∧ p = move place c ∧
      ∀ s, c = .name s → (f.node? p).isSome := by
  unfold Files.step
  by_cases hd : f.isDirectory place = true
  · cases c with
    | name s =>
      by_cases hs : (f.node? (place ++ [s])).isSome
      · simp only [hd, hs, move]
        grind
      · simp only [hd, hs, move]
        grind
    | _ => simp only [hd, move]; grind
  · simp [hd]

/-- A walk reaches the place that its components lead to, if it only steps from directories and a
name at its end names something. -/
theorem walk_eq_ok_iff {cs : List Component} : f.walk place cs = .ok p ↔
    p = cs.foldl move place ∧ (∀ q ∈ origins place cs, f.isDirectory q = true) ∧
      ∀ s, cs.getLast? = some (.name s) → (f.node? p).isSome := by
  induction cs generalizing place with
  | nil =>
    simp only [Files.walk, origins, List.foldl_nil, Except.ok.injEq, eq_comm (a := place)]
    simp
  | cons c cs ih =>
    have hwalk : f.walk place (c :: cs) = .ok p ↔
        ∃ q, f.step place c = .ok q ∧ f.walk q cs = .ok p := by
      rw [Files.walk]
      cases f.step place c <;> simp
    rw [hwalk]
    simp only [step_eq_ok_iff, ih, origins, List.foldl_cons, List.mem_cons, forall_eq_or_imp]
    constructor
    · rintro ⟨q, ⟨hd, rfl, hs⟩, hp, hdirs, hlast⟩
      refine ⟨hp, ⟨hd, hdirs⟩, fun s h => ?_⟩
      cases cs with
      | nil =>
        rw [hp]
        exact hs s (by simpa using h)
      | cons c' cs => exact hlast s (by simpa using h)
    · rintro ⟨hp, ⟨hd, hdirs⟩, hlast⟩
      refine ⟨move place c, ⟨hd, rfl, fun s h => ?_⟩, hp, hdirs, fun s h => ?_⟩
      · cases cs with
        | nil =>
          have hs := hlast s (by simp [h])
          rwa [hp] at hs
        | cons c' cs =>
          -- a further step is taken from here
          rw [isDirectory_iff.mp (hdirs _ List.mem_cons_self)]
          rfl
      · cases cs with
        | nil => simp at h
        | cons c' cs => exact hlast s (by simpa using h)

lemma walk_append (cs ds : List Component) :
    f.walk place (cs ++ ds) = match f.walk place cs with
      | .ok q => f.walk q ds
      | .error e => .error e := by
  induction cs generalizing place with
  | nil => rfl
  | cons c cs ih =>
    rw [List.cons_append, Files.walk, Files.walk]
    cases f.step place c with
    | error e => rfl
    | ok q => exact ih

/-- A walk finds the same where the same kinds of nodes stand. -/
lemma walk_congr {cs : List Component} (hd : ∀ q ∈ origins place cs, g.isDirectory q = f.isDirectory q)
    (hn : ∀ q ∈ origins place cs ++ [cs.foldl move place],
      (g.node? q).isSome = (f.node? q).isSome) :
    g.walk place cs = f.walk place cs := by
  induction cs generalizing place with
  | nil => rfl
  | cons c cs ih =>
    have hmove : move place c ∈ origins place (c :: cs) ++ [(c :: cs).foldl move place] := by
      cases cs <;> simp [origins]
    have hstep : g.step place c = f.step place c := by
      have hplace := hd place List.mem_cons_self
      cases c with
      | name s =>
        have hs : (g.node? (place ++ [s])).isSome = (f.node? (place ++ [s])).isSome := hn _ hmove
        simp only [Files.step, hplace, hs]
      | _ => simp only [Files.step, hplace]
    rw [Files.walk, Files.walk, hstep]
    cases hs : f.step place c with
    | error e => rfl
    | ok q =>
      have hq : q = move place c := (step_eq_ok_iff.mp hs).2.1
      rw [hq]
      exact ih (fun q h => hd q (List.mem_cons_of_mem _ h)) fun q h => hn q (List.mem_cons_of_mem _ h)

end Walks

/-! ### Paths -/

section Paths

variable {f g : Files} {path : String} {p : List String}

lemma locate_eq_ok_iff : f.locate path = .ok p ↔ path ≠ "" ∧
    f.walk f.working (components path) = .ok p ∧
      (Files.asksForDirectory path = true → f.isDirectory p = true) := by
  unfold Files.locate
  by_cases hpath : path = ""
  · simp [hpath]
  · cases f.walk f.working (components path) with
    | error e => simp [hpath]
    | ok q => by_cases ha : Files.asksForDirectory path = true <;>
        by_cases hd : f.isDirectory q = true <;> simp [hpath, ha, hd] <;> grind

lemma wayTo_of_locate (h : f.locate path = .ok p) : p = placeOf f.working path ∧
    ∀ q ∈ wayTo f.working path, f.isDirectory q = true := by
  obtain ⟨hp, hdirs, -⟩ := walk_eq_ok_iff.mp (locate_eq_ok_iff.mp h).2.1
  exact ⟨hp, hdirs⟩

/-- A file can be read exactly if it stands at the place of its path, behind directories. -/
theorem read_eq_ok_iff {content : ByteArray} : f.read path = .ok content ↔
    path ≠ "" ∧ Files.asksForDirectory path = false ∧
      (∀ q ∈ wayTo f.working path, f.isDirectory q = true) ∧
        f.node? (placeOf f.working path) = some (.file content) := by
  have hread : f.read path = .ok content ↔
      ∃ q, f.locate path = .ok q ∧ f.node? q = some (.file content) := by
    unfold Files.read
    cases f.locate path with
    | error e => simp
    | ok q =>
      cases hq : f.node? q with
      | none => simp [hq]
      | some n => cases n <;> simp [hq]
  rw [hread]
  constructor
  · rintro ⟨q, hq, hfile⟩
    obtain ⟨hpath, hwalk, hasks⟩ := locate_eq_ok_iff.mp hq
    obtain ⟨rfl, hdirs⟩ := wayTo_of_locate hq
    refine ⟨hpath, ?_, hdirs, hfile⟩
    by_contra ha
    have hd := hasks (by simpa using ha)
    rw [isDirectory_of_file hfile] at hd
    cases hd
  · rintro ⟨hpath, hasks, hdirs, hfile⟩
    refine ⟨_, locate_eq_ok_iff.mpr ⟨hpath, walk_eq_ok_iff.mpr ⟨rfl, hdirs, ?_⟩, ?_⟩, hfile⟩
    · intro s _
      exact hfile ▸ rfl
    · simp [hasks]

/-- Reading finds the same where nothing on the path has changed. -/
lemma read_congr (hworking : g.working = f.working)
    (h : ∀ p ∈ wayTo f.working path ++ [placeOf f.working path], g.node? p = f.node? p) :
    g.read path = f.read path := by
  have hwalk : g.walk g.working (components path) = f.walk f.working (components path) := by
    rw [hworking]
    exact walk_congr (fun q hq => isDirectory_congr (h q (List.mem_append_left _ hq)))
      fun q hq => by rw [h q hq]
  have hend : g.node? (placeOf f.working path) = f.node? (placeOf f.working path) :=
    h _ (by simp)
  have hlocate : g.locate path = f.locate path := by
    unfold Files.locate
    rw [hwalk]
    cases hw : f.walk f.working (components path) with
    | error e => rfl
    | ok p =>
      have hp : p = placeOf f.working path := (walk_eq_ok_iff.mp hw).1
      simp only [hp, isDirectory_congr hend]
  unfold Files.read
  rw [hlocate]
  cases hl : f.locate path with
  | error e => rfl
  | ok p =>
    obtain ⟨rfl, -⟩ := wayTo_of_locate hl
    simp only [hend]

lemma wayTo_of_concat {front : List Component} {c : Component}
    (h : components path = front ++ [c]) (working : List String) :
    wayTo working path = origins working front ++ [front.foldl move working] := by
  rw [wayTo, h, origins_append]
  rfl

lemma placeOf_of_concat {front : List Component} {c : Component}
    (h : components path = front ++ [c]) (working : List String) :
    placeOf working path = move (front.foldl move working) c := by
  simp [placeOf, h]

lemma destination_eq_ok_iff {front : List Component} {s : String}
    (h : components path = front ++ [.name s]) : f.destination path = .ok p ↔
      p = placeOf f.working path ∧ ∀ q ∈ wayTo f.working path, f.isDirectory q = true := by
  have hdest : f.destination path = .ok p ↔ ∃ q, f.walk f.working front = .ok q ∧
      f.isDirectory q = true ∧ p = q ++ [s] := by
    unfold Files.destination
    simp only [h, List.getLast?_concat, List.dropLast_concat]
    cases f.walk f.working front with
    | error e => simp
    | ok q =>
      by_cases hd : f.isDirectory q = true
      · simp only [hd, if_pos, Except.ok.injEq, eq_comm (a := q ++ [s])]
        simp [hd]
      · simp [hd]
  rw [hdest, placeOf_of_concat h, wayTo_of_concat h]
  simp only [walk_eq_ok_iff, List.mem_append, List.mem_singleton]
  constructor
  · rintro ⟨q, ⟨rfl, hdirs, -⟩, hd, rfl⟩
    refine ⟨rfl, fun r hr => ?_⟩
    rcases hr with hr | rfl
    · exact hdirs r hr
    · exact hd
  · rintro ⟨rfl, hdirs⟩
    have hd := hdirs _ (Or.inr rfl)
    exact ⟨_, ⟨rfl, fun r hr => hdirs r (Or.inl hr), fun _ _ => by rw [isDirectory_iff.mp hd]; rfl⟩,
      hd, rfl⟩

lemma wayTo_of_destination (h : f.destination path = .ok p) : p = placeOf f.working path ∧
    ∀ q ∈ wayTo f.working path, f.isDirectory q = true := by
  by_cases hname : ∃ s, (components path).getLast? = some (.name s)
  · obtain ⟨s, hs⟩ := hname
    exact (destination_eq_ok_iff (List.dropLast_append_getLast? _ hs).symm).mp h
  · have hlocate : f.destination path = f.locate path := by
      unfold Files.destination
      grind
    exact wayTo_of_locate (hlocate ▸ h)

/-- A file is written at the place of its path, behind directories. -/
theorem write_eq_ok_iff {front : List Component} {s : String} {content : ByteArray}
    (h : components path = front ++ [.name s]) : f.write path content = .ok g ↔
      (∀ q ∈ wayTo f.working path, f.isDirectory q = true) ∧
        f.isDirectory (placeOf f.working path) = false ∧ Files.asksForDirectory path = false ∧
          g = f.set (placeOf f.working path) (.file content) := by
  have hdest := fun p => destination_eq_ok_iff (f := f) (p := p) h
  unfold Files.write
  cases hd : f.destination path with
  | error e =>
    have hno : ¬ ∀ q ∈ wayTo f.working path, f.isDirectory q = true := fun hdirs => by
      have hok := (hdest _).mpr ⟨rfl, hdirs⟩
      rw [hd] at hok
      cases hok
    simp [hno]
  | ok q =>
    obtain ⟨rfl, hdirs⟩ := (hdest q).mp hd
    by_cases hdir : f.isDirectory (placeOf f.working path) = true
    · simp [hdir]
    · by_cases ha : Files.asksForDirectory path = true
      · simp [ha]
      · have hiff : f.set (placeOf f.working path) (.file content) = g ↔
            g = f.set (placeOf f.working path) (.file content) := eq_comm
        simpa [hdir, ha, hiff] using fun _ => hdirs

lemma makeDirectory_eq_ok (h : f.makeDirectory path = .ok g) :
    (∀ q ∈ wayTo f.working path, f.isDirectory q = true) ∧
      f.node? (placeOf f.working path) = none ∧
        g = f.set (placeOf f.working path) .directory := by
  unfold Files.makeDirectory at h
  cases hd : f.destination path with
  | error e => simp [hd] at h
  | ok q =>
    obtain ⟨rfl, hdirs⟩ := wayTo_of_destination hd
    simp only [hd] at h
    split at h
    · simp at h
    · rename_i hnone
      exact ⟨hdirs, by simpa using hnone, (Except.ok.inj h).symm⟩

lemma status_eq_true (h : f.status path = .ok true) :
    (∀ q ∈ wayTo f.working path, f.isDirectory q = true) ∧
      f.isDirectory (placeOf f.working path) = true := by
  unfold Files.status at h
  cases hl : f.locate path with
  | error e => simp [hl, Except.map] at h
  | ok q =>
    obtain ⟨rfl, hdirs⟩ := wayTo_of_locate hl
    exact ⟨hdirs, by simpa [hl, Except.map] using h⟩

end Paths

end PublicPath.Proofs
