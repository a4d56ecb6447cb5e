import PublicPath.Proofs.FilePlaces
import PublicPath.Proofs.QuietMachine

/-!
# Making directories

Making the directories on the way to a path adds directories there and changes nothing else, also
where it fails halfway. Afterwards all of them exist if it succeeded, and it succeeds where no file
stands in the way.
-/

namespace PublicPath.Proofs
open Machine PublicPath.Path

/-- Nothing but directories has been added, and these at some of the places only. -/
structure Grows (f g : Files) (places : List (List String)) : Prop where
  working : g.working = f.working
  node (p : List String) : g.node? p = f.node? p ∨
    f.node? p = none ∧ g.node? p = some .directory ∧ p ∈ places

/-- The places on a path, its own included. -/
def trail (working : List String) (path : String) : List (List String) :=
  wayTo working path ++ [placeOf working path]

/-! ### Growing -/

section Grows

variable {f g k : Files} {places more : List (List String)} {p : List String}

lemma Grows.refl (f : Files) (places : List (List String)) : Grows f f places :=
  ⟨rfl, fun _ => Or.inl rfl⟩

lemma Grows.mono (h : Grows f g places) (hsub : ∀ p ∈ places, p ∈ more) : Grows f g more :=
  ⟨h.working, fun p => (h.node p).imp id fun ⟨hf, hg, hp⟩ => ⟨hf, hg, hsub p hp⟩⟩

lemma Grows.trans (h : Grows f g places) (h' : Grows g k places) : Grows f k places := by
  refine ⟨h'.working.trans h.working, fun p => ?_⟩
  rcases h.node p with hg | ⟨hf, hg, hp⟩
  · rcases h'.node p with hk | ⟨hnone, hk, hp⟩
    · exact Or.inl (hk.trans hg)
    · exact Or.inr ⟨hg ▸ hnone, hk, hp⟩
  · rcases h'.node p with hk | ⟨hnone, -⟩
    · exact Or.inr ⟨hf, hk.trans hg, hp⟩
    · rw [hg] at hnone
      cases hnone

lemma Grows.isDirectory (h : Grows f g places) (hd : f.isDirectory p = true) :
    g.isDirectory p = true := by
  rcases h.node p with hg | ⟨-, hg, -⟩
  · rwa [isDirectory_congr hg]
  · exact isDirectory_iff.mpr hg

lemma grows_makeDirectory {path : String} (h : f.makeDirectory path = .ok g) :
    Grows f g [placeOf f.working path] := by
  obtain ⟨-, hnone, rfl⟩ := makeDirectory_eq_ok h
  have hne := ne_nil_of_missing hnone
  refine ⟨rfl, fun p => ?_⟩
  by_cases hp : p = placeOf f.working path
  · subst hp
    exact Or.inr ⟨hnone, node?_set_self hne, by simp⟩
  · exact Or.inl (node?_set_of_ne hp)

end Grows

/-! ### One directory -/

section Ensure

variable {f g : Files} {path : String}

lemma trail_parent {parent : String} (h : parent? path = some parent) (working : List String) :
    trail working parent = wayTo working path := by
  obtain ⟨front, c, hc⟩ : ∃ front c, components path = front ++ [c] := by
    rcases List.eq_nil_or_concat (components path) with hnil | ⟨front, c, hc⟩
    · simp [parent?, hnil] at h
    · exact ⟨front, c, by simpa using hc⟩
  have hparent : components parent = front := by rw [components_parent h, hc, List.dropLast_concat]
  rw [trail, wayTo, placeOf, hparent, wayTo_of_concat hc]

lemma ensureDirectory_run (f : Files) (path : String) :
    (ensureDirectory path : StateM Files _).run f =
      match f.makeDirectory path with
      | .ok g => (.ok (), g)
      | .error e => if f.status path = .ok true then (.ok (), f) else (.error e, f) := by
  have hmake : (makeDirectory path : StateM Files _).run f =
      match f.makeDirectory path with
      | .ok g => (.ok (), g)
      | .error e => (.error e, f) := by
    change (changeFiles _).run f = _
    simp only [changeFiles, StateT.run_bind, StateT.run_get, pure_bind]
    cases f.makeDirectory path <;> rfl
  unfold ensureDirectory
  rw [StateT.run_bind, hmake]
  cases f.makeDirectory path with
  | ok g => rfl
  | error e =>
    have hstatus : (Machine.isDirectory path : StateM Files _).run f =
        (decide (f.status path = .ok true), f) := by
      rw [Machine.isDirectory, run_bind_eq (status_run f path)]
      cases f.status path with
      | ok directory => cases directory <;> rfl
      | error e => rfl
    change ((Machine.isDirectory path : StateM Files Bool) >>= _).run f = _
    rw [StateT.run_bind, hstatus]
    by_cases h : f.status path = .ok true <;> simp [h] <;> rfl

lemma ensureDirectories_run (fuel : Nat) (f : Files) (path : String) :
    (ensureDirectories (fuel + 1) path : StateM Files _).run f =
      match (ensureDirectory path : StateM Files _).run f with
      | (.error .notFound, g) =>
        match parent? path with
        | none | some "" => (.error .notFound, g)
        | some parent =>
          match (ensureDirectories fuel parent : StateM Files _).run g with
          | (.error e, k) => (.error e, k)
          | (.ok (), k) => (ensureDirectory path : StateM Files _).run k
      | made => made := by
  rw [ensureDirectories, StateT.run_bind]
  generalize (ensureDirectory path : StateM Files _).run f = made
  obtain ⟨answer, g⟩ := made
  cases answer with
  | ok => rfl
  | error e =>
    cases e with
    | notFound =>
      dsimp only [pure_bind]
      change StateT.run (match parent? path with
        | none | some "" => _
        | some parent => _) g = _
      split
      · rfl
      · rfl
      · rename_i parent _ _
        rw [StateT.run_bind]
        generalize (ensureDirectories fuel parent : StateM Files _).run g = made
        obtain ⟨answer, k⟩ := made
        cases answer <;> rfl
    | _ => rfl

/-- What making directories comes to, be it enough or not. -/
structure Makes (f : Files) (places : List (List String))
    (made : Except FileFault Unit × Files) : Prop where
  grows : Grows f made.2 places
  all (ok : made.1 = .ok ()) (p : List String) : p ∈ places → made.2.isDirectory p = true

lemma makes_ensureDirectory (f : Files) (path : String) :
    Makes f (trail f.working path) ((ensureDirectory path : StateM Files _).run f) := by
  rw [ensureDirectory_run]
  cases hm : f.makeDirectory path with
  | ok g =>
    have hg := grows_makeDirectory hm
    obtain ⟨hdirs, hnone, rfl⟩ := makeDirectory_eq_ok hm
    refine ⟨hg.mono fun p hp => by simp_all [trail], fun _ p hp => ?_⟩
    rcases List.mem_append.mp hp with hp | hp
    · exact hg.isDirectory (hdirs p hp)
    · rw [List.mem_singleton.mp hp]
      exact isDirectory_iff.mpr (node?_set_self (ne_nil_of_missing hnone))
  | error e =>
    dsimp only
    split
    · rename_i hs
      obtain ⟨hdirs, hd⟩ := status_eq_true hs
      refine ⟨.refl f _, fun _ p hp => ?_⟩
      rcases List.mem_append.mp hp with hp | hp
      · exact hdirs p hp
      · rwa [List.mem_singleton.mp hp]
    · exact ⟨.refl f _, by simp⟩

lemma ensureDirectory_of_error {e : FileFault}
    (h : (ensureDirectory path : StateM Files _).run f = (.error e, g)) : g = f := by
  rw [ensureDirectory_run] at h
  split at h
  · cases h
  · split at h <;> cases h
    rfl

lemma makes_ensureDirectories (fuel : Nat) (f : Files) (path : String) :
    Makes f (trail f.working path) ((ensureDirectories fuel path : StateM Files _).run f) := by
  induction fuel generalizing f path with
  | zero => exact makes_ensureDirectory f path
  | succ fuel ih =>
    have hfirst := makes_ensureDirectory f path
    rw [ensureDirectories_run]
    split
    · rename_i g hrun
      obtain rfl := ensureDirectory_of_error hrun
      split
      · exact ⟨.refl g _, by simp⟩
      · exact ⟨.refl g _, by simp⟩
      · rename_i parent _ hparent
        have hmakes := ih g parent
        have hsub : ∀ p ∈ trail g.working parent, p ∈ trail g.working path := fun p hp =>
          List.mem_append_left _ (trail_parent hparent g.working ▸ hp)
        split
        · rename_i e k hk
          rw [hk] at hmakes
          exact ⟨hmakes.grows.mono hsub, by simp⟩
        · rename_i k hk
          rw [hk] at hmakes
          have hlast := makes_ensureDirectory k path
          have hworking : k.working = g.working := hmakes.grows.working
          rw [hworking] at hlast
          exact ⟨(hmakes.grows.mono hsub).trans hlast.grows, hlast.all⟩
    · exact hfirst

lemma grows_ensureParent (f : Files) (path : String) :
    Grows f ((ensureParent path : StateM Files _).run f).2 (wayTo f.working path) := by
  unfold ensureParent
  split
  · exact .refl f _
  · exact .refl f _
  · rename_i parent _ hparent
    rw [← trail_parent hparent]
    exact (makes_ensureDirectories _ f parent).grows

end Ensure

/-! ### Trees -/

section Trees

variable {f g : Files} {path : String} {places : List (List String)}

lemma IsTree.grow (tree : IsTree f) (h : Grows f g places)
    (hnew : ∀ p, f.node? p = none → (g.node? p).isSome → g.isDirectory p.dropLast = true) :
    IsTree g := by
  refine ⟨?_, fun p hp => ?_⟩
  · rw [h.working]
    exact h.isDirectory tree.working
  · cases hf : f.node? p with
    | none => exact hnew p hf hp
    | some n => exact h.isDirectory (tree.parent p (hf ▸ rfl))

/-- In a tree, a place that is missing behind directories is missing under its last name. -/
lemma IsTree.name_of_missing (tree : IsTree f)
    (hdirs : ∀ q ∈ wayTo f.working path, f.isDirectory q = true)
    (hnone : f.node? (placeOf f.working path) = none) :
    ∃ front s, components path = front ++ [.name s] := by
  have hmissing : ¬ f.isDirectory (placeOf f.working path) = true := by
    rw [isDirectory_iff, hnone]
    simp
  rcases List.eq_nil_or_concat (components path) with hnil | ⟨front, c, hc⟩
  · rw [placeOf, hnil] at hmissing
    exact absurd tree.working hmissing
  · rw [List.concat_eq_append] at hc
    rw [wayTo_of_concat hc] at hdirs
    have hlast := hdirs (front.foldl move f.working) (by simp)
    rw [placeOf_of_concat hc] at hmissing
    cases c with
    | name s => exact ⟨front, s, hc⟩
    | root => exact absurd isDirectory_nil hmissing
    | current => exact absurd hlast hmissing
    | parent => exact absurd (tree.parent _ (by rw [isDirectory_iff.mp hlast]; rfl)) hmissing

lemma IsTree.set_file (tree : IsTree f) {place : List String} {content : ByteArray}
    (hparent : f.isDirectory place.dropLast = true) (hplace : f.isDirectory place = false) :
    IsTree (f.set place (.file content)) := by
  have hdir (p : List String) (hd : f.isDirectory p = true) :
      (f.set place (.file content)).isDirectory p = true := by
    have hne : p ≠ place := by
      rintro rfl
      rw [hplace] at hd
      cases hd
    rwa [isDirectory_congr (node?_set_of_ne hne)]
  refine ⟨hdir _ tree.working, fun p hp => ?_⟩
  by_cases h : p = place
  · exact h ▸ hdir _ hparent
  · rw [node?_set_of_ne h] at hp
    exact hdir _ (tree.parent p hp)

lemma IsTree.makeDirectory (tree : IsTree f) (h : f.makeDirectory path = .ok g) : IsTree g := by
  have hgrows := grows_makeDirectory h
  obtain ⟨hdirs, hnone, -⟩ := makeDirectory_eq_ok h
  obtain ⟨front, s, hc⟩ := tree.name_of_missing hdirs hnone
  refine tree.grow hgrows fun p hf hg => ?_
  rcases hgrows.node p with hsame | ⟨-, -, hp⟩
  · rw [hsame, hf] at hg
    cases hg
  · have hparent : p.dropLast = front.foldl move f.working := by
      rw [List.mem_singleton.mp hp, placeOf_of_concat hc, move, List.dropLast_concat]
    rw [hparent]
    exact hgrows.isDirectory (hdirs _ (by simp [wayTo_of_concat hc]))

lemma IsTree.ensureDirectory (tree : IsTree f) (path : String) :
    IsTree ((ensureDirectory path : StateM Files _).run f).2 := by
  rw [ensureDirectory_run]
  split
  · exact tree.makeDirectory ‹_›
  · split <;> exact tree

lemma IsTree.ensureDirectories (tree : IsTree f) (fuel : Nat) (path : String) :
    IsTree ((ensureDirectories fuel path : StateM Files _).run f).2 := by
  induction fuel generalizing f path with
  | zero => exact tree.ensureDirectory path
  | succ fuel ih =>
    have hfirst := tree.ensureDirectory path
    rw [ensureDirectories_run]
    split
    · rename_i g hrun
      rw [hrun] at hfirst
      split
      · exact hfirst
      · exact hfirst
      · rename_i parent _ hparent
        have hparent := ih hfirst parent
        split
        · rename_i hk
          rwa [hk] at hparent
        · rename_i k hk
          rw [hk] at hparent
          exact IsTree.ensureDirectory hparent path
    · exact hfirst

end Trees

/-! ### Where nothing stands in the way -/

section Clear

variable {f g : Files} {path : String}

/-- A directory can be made at each of the places, or is there. -/
def Clear (f : Files) (places : List (List String)) : Prop :=
  ∀ p ∈ places, f.node? p = none ∨ f.isDirectory p = true

lemma Clear.grows {places more : List (List String)} (h : Clear f places) (hg : Grows f g more) :
    Clear g places := by
  intro p hp
  rcases hg.node p with hsame | ⟨-, hnew, -⟩
  · rw [isDirectory_congr hsame, hsame]
    exact h p hp
  · exact Or.inr (isDirectory_iff.mpr hnew)

/-- Where nothing stands in the way, a walk can only fail at a place that is missing. -/
lemma walk_clear (tree : IsTree f) {place : List String} (hd : f.isDirectory place = true)
    (cs : List Component) (h : Clear f (origins place cs ++ [cs.foldl move place])) :
    (∀ q ∈ origins place cs ++ [cs.foldl move place], f.isDirectory q = true) ∨
      f.walk place cs = .error .notFound := by
  induction cs generalizing place with
  | nil => exact Or.inl (by simpa [origins] using hd)
  | cons c cs ih =>
    have hrest : Clear f (origins (move place c) cs ++ [cs.foldl move (move place c)]) :=
      fun q hq => h q (List.mem_cons_of_mem _ hq)
    have hmove : move place c ∈ origins place (c :: cs) ++ [(c :: cs).foldl move place] := by
      cases cs <;> simp [origins]
    have hstep : f.step place c = .ok (move place c) ∧ f.isDirectory (move place c) = true ∨
        f.step place c = .error .notFound := by
      unfold Files.step
      cases c with
      | root => exact Or.inl ⟨by simp [hd, move], isDirectory_nil⟩
      | current => exact Or.inl ⟨by simp [hd, move], hd⟩
      | parent =>
        exact Or.inl ⟨by simp [hd, move], tree.parent place (by rw [isDirectory_iff.mp hd]; rfl)⟩
      | name s =>
        rcases h _ hmove with hnone | hdir
        · exact Or.inr (by simp [hd, show f.node? (place ++ [s]) = none from hnone])
        · have hsome : f.node? (place ++ [s]) = some .directory := isDirectory_iff.mp hdir
          exact Or.inl ⟨by simp [hd, hsome, move], hdir⟩
    rw [Files.walk]
    rcases hstep with ⟨hok, hdir⟩ | herror
    · rw [hok]
      refine (ih hdir hrest).imp (fun hall q hq => ?_) id
      rcases List.mem_cons.mp hq with rfl | hq
      · exact hd
      · exact hall q hq
    · rw [herror]
      exact Or.inr rfl

lemma status_of_isDirectory (hpath : path ≠ "")
    (hdirs : ∀ q ∈ wayTo f.working path, f.isDirectory q = true)
    (hd : f.isDirectory (placeOf f.working path) = true) : f.status path = .ok true := by
  have hlocate : f.locate path = .ok (placeOf f.working path) := by
    refine locate_eq_ok_iff.mpr ⟨hpath, walk_eq_ok_iff.mpr ⟨rfl, hdirs, fun _ _ => ?_⟩, fun _ => hd⟩
    rw [isDirectory_iff.mp hd]
    rfl
  rw [Files.status, hlocate, Except.map, hd]

lemma ensureDirectory_clear (tree : IsTree f) (hpath : path ≠ "")
    (hdirs : ∀ q ∈ wayTo f.working path, f.isDirectory q = true)
    (hclear : Clear f [placeOf f.working path]) :
    ((ensureDirectory path : StateM Files _).run f).1 = .ok () := by
  rw [ensureDirectory_run]
  rcases hclear _ (List.mem_singleton.mpr rfl) with hnone | hd
  · obtain ⟨front, s, hc⟩ := tree.name_of_missing hdirs hnone
    have hmake : f.makeDirectory path = .ok (f.set (placeOf f.working path) .directory) := by
      rw [Files.makeDirectory, (destination_eq_ok_iff hc).mpr ⟨rfl, hdirs⟩]
      simp [hnone]
    rw [hmake]
  · rw [status_of_isDirectory hpath hdirs hd]
    split <;> rfl

lemma exists_concat_components (hpath : path ≠ "") :
    ∃ front c, components path = front ++ [c] := by
  rcases List.eq_nil_or_concat (components path) with hnil | ⟨front, c, hc⟩
  · exact absurd ((components_eq_nil_iff path).mp hnil) hpath
  · exact ⟨front, c, by rw [hc, List.concat_eq_append]⟩

/-- A walk that fails in front of the last component makes the directory fail alike. -/
lemma ensureDirectory_notFound {front : List Component} {c : Component} (hpath : path ≠ "")
    (hc : components path = front ++ [c]) (hwalk : f.walk f.working front = .error .notFound) :
    (ensureDirectory path : StateM Files _).run f = (.error .notFound, f) := by
  have hlocate : f.locate path = .error .notFound := by
    rw [Files.locate, if_neg hpath, hc, walk_append, hwalk]
  have hmake : f.makeDirectory path = .error .notFound := by
    have hdest : f.destination path = .error .notFound := by
      unfold Files.destination
      rw [hc]
      cases c <;> simp [hwalk, hlocate]
    rw [Files.makeDirectory, hdest]
  have hstatus : f.status path ≠ .ok true := by
    rw [Files.status, hlocate]
    simp [Except.map]
  rw [ensureDirectory_run, hmake]
  exact if_neg hstatus

lemma front_of_root {front : List Component} (h : components path = front ++ [.root]) :
    front = [] := by
  have hno (first : Bool) (s : String) : component? first s ≠ some .root := by
    unfold component?
    grind
  obtain ⟨first, rest, hs⟩ := List.exists_cons_of_ne_nil (segments_ne_nil path)
  rw [components_eq, hs, componentsOf] at h
  rcases List.eq_nil_or_concat (rest.filterMap (component? false)) with hnil | ⟨init, last, hlast⟩
  · rw [hnil, List.append_nil] at h
    have hlength := congrArg List.length h
    split at hlength
    · simpa using hlength
    · have hone := Option.length_toList_le (o := component? true first)
      simp only [List.length_append, List.length_singleton] at hlength
      exact List.length_eq_zero_iff.mp (by omega)
  · have hroot : last = .root := by
      rw [hlast, List.concat_eq_append, ← List.append_assoc] at h
      simpa using (List.append_inj_right' h rfl)
    have hmem : last ∈ rest.filterMap (component? false) := by simp [hlast]
    obtain ⟨s, -, hs⟩ := List.mem_filterMap.mp hmem
    exact absurd (hroot ▸ hs) (hno false s)

lemma exists_parent_of_front {front : List Component} {c : Component}
    (hc : components path = front ++ [c]) (hfront : front ≠ []) :
    ∃ parent, parent? path = some parent ∧ components parent = front ∧ parent ≠ "" := by
  have hlast : c ≠ .root := by
    rintro rfl
    exact hfront (front_of_root hc)
  obtain ⟨parent, hparent⟩ : ∃ parent, parent? path = some parent := by
    cases c <;> simp_all [parent?]
  have hcomps : components parent = front := by
    rw [components_parent hparent, hc, List.dropLast_concat]
  refine ⟨parent, hparent, hcomps, ?_⟩
  rintro rfl
  exact hfront hcomps.symm

/-- Directories can be made where nothing stands in the way of them. -/
theorem ensureDirectories_clear (tree : IsTree f) (hpath : path ≠ "") {fuel : Nat}
    (hfuel : (components path).length ≤ fuel + 1) (hclear : Clear f (trail f.working path)) :
    ((ensureDirectories fuel path : StateM Files _).run f).1 = .ok () := by
  induction fuel generalizing path with
  | zero =>
    obtain ⟨front, c, hc⟩ := exists_concat_components hpath
    have hnil : front = [] := List.length_eq_zero_iff.mp (by simpa [hc] using hfuel)
    have hway : wayTo f.working path = [f.working] := by rw [wayTo, hc, hnil]; rfl
    exact ensureDirectory_clear tree hpath (by simpa [hway] using tree.working)
      fun p hp => hclear p (List.mem_append_right _ hp)
  | succ fuel ih =>
    obtain ⟨front, c, hc⟩ := exists_concat_components hpath
    have hway := wayTo_of_concat hc f.working
    have hclearWay : Clear f (wayTo f.working path) :=
      fun p hp => hclear p (List.mem_append_left _ hp)
    have hclearPlace : Clear f [placeOf f.working path] :=
      fun p hp => hclear p (List.mem_append_right _ hp)
    rw [ensureDirectories_run]
    rcases walk_clear tree tree.working front (hway ▸ hclearWay) with hdirs | hwalk
    · -- the directories in front are there
      have hok := ensureDirectory_clear tree hpath (hway ▸ hdirs) hclearPlace
      split
      · rename_i hrun
        rw [hrun] at hok
        cases hok
      · exact hok
    · -- one of them is missing, so that the parent is made first
      have hne : front ≠ [] := by
        rintro rfl
        cases hwalk
      obtain ⟨parent, hparent, hcomps, hnonempty⟩ := exists_parent_of_front hc hne
      have hlength : (components parent).length ≤ fuel + 1 := by
        rw [hc, List.length_append, List.length_singleton] at hfuel
        rw [hcomps]
        omega
      have htrail := trail_parent hparent f.working
      have hmade := ih hnonempty hlength (htrail ▸ hclearWay)
      have hmakes := makes_ensureDirectories fuel f parent
      have htree := tree.ensureDirectories fuel parent
      rw [ensureDirectory_notFound hpath hc hwalk]
      simp only [hparent]
      generalize (ensureDirectories fuel parent : StateM Files _).run f = made at *
      obtain ⟨answer, k⟩ := made
      dsimp only at hmade hmakes htree ⊢
      subst hmade
      have hworking : k.working = f.working := hmakes.grows.working
      refine ensureDirectory_clear htree hpath (fun q hq => hmakes.all rfl q ?_) ?_
      · rwa [htrail, ← hworking]
      · rw [hworking]
        exact hclearPlace.grows hmakes.grows

/-- The directories on the way to a file can be made where nothing stands in the way of them. -/
theorem ensureParent_clear (tree : IsTree f) {front : List Component} {s : String}
    (hname : components path = front ++ [.name s]) (hclear : Clear f (wayTo f.working path)) :
    ((ensureParent path : StateM Files _).run f).1 = .ok () ∧
      IsTree ((ensureParent path : StateM Files _).run f).2 ∧
        ∀ p ∈ wayTo f.working path,
          ((ensureParent path : StateM Files _).run f).2.isDirectory p = true := by
  have hlast : (components path).getLast? = some (.name s) := by simp [hname]
  obtain ⟨parent, hparent⟩ := exists_parent hlast
  have htrail := trail_parent hparent f.working
  unfold ensureParent
  rw [hparent]
  split
  · cases ‹some parent = none›
  · -- the working directory
    rename_i hempty
    cases hempty
    have hway : wayTo f.working path = [f.working] := htrail ▸ rfl
    refine ⟨rfl, tree, fun p hp => ?_⟩
    rw [hway, List.mem_singleton] at hp
    exact hp ▸ tree.working
  · rename_i parent' hne heq
    cases heq
    have hpath : parent ≠ "" := fun h => hne (h ▸ rfl)
    have hok := ensureDirectories_clear tree hpath (Nat.le_succ_of_le (length_components_le parent))
      (htrail ▸ hclear)
    have hmakes := makes_ensureDirectories (segments parent).length f parent
    exact ⟨hok, tree.ensureDirectories _ parent, fun p hp => hmakes.all hok p (htrail ▸ hp)⟩

end Clear

end PublicPath.Proofs
