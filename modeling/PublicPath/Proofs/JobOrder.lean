import PublicPath.Proofs.Deliveries

/-!
# The order of jobs

Jobs may run in any order if what one of them writes lies off the paths that the others read. Then
each of them does what it would do alone, and the files in the end are those of the start under all
outputs. That no write fails in one order means that none fails in any other.
-/

namespace PublicPath.Proofs
open Machine PublicPath.Path

/-- Jobs none of which can tell whether another one has run. -/
structure KeepApart (f : Files) (call : InitializerCall) (jobs : List Job) : Prop where
  outputs : (jobs.map fun j => placeOf f.working j.output).Nodup
  /-- No output is on the path of the input of another job. -/
  inputs : ∀ i ∈ jobs, ∀ j ∈ jobs, i ≠ j → (product call f i.input).isSome →
    placeOf f.working i.output ∉ trail f.working j.input
  /-- Nor is a directory that is yet to be made for an output. -/
  ways : ∀ i ∈ jobs, ∀ j ∈ jobs, (product call f i.input).isSome →
    ∀ p ∈ wayTo f.working i.output, f.node? p = none → p ∉ trail f.working j.input

/-- An output that can be written, with the directories on the way to it. -/
structure Writable (f : Files) (path : String) : Prop where
  clear : Clear f (wayTo f.working path)
  place : f.isDirectory (placeOf f.working path) = false
  /-- The output is not a directory on its own way. -/
  off : placeOf f.working path ∉ wayTo f.working path

/-- What jobs come to in another order than that of the command. -/
structure SameResult (s : Session) (files : List String) (config : ProjectConfig)
    (call : InitializerCall) (jobs : List Job) : Prop where
  nodes (p : List String) :
    ((runJobs (.console config.pretty) (freshProgress call) jobs :
        StateM Session _).run s).2.files.node? p =
      ((replaceIn files config call : StateM Session _).run s).2.files.node? p
  /-- The outcome of a job is that of its input as it was in the beginning. -/
  outcomes : ((runJobs (.console config.pretty) (freshProgress call) jobs :
      StateM Session _).run s).1.2 = jobs.map fun j => (j, outcomeOf call s.files j)
  answer : ((replaceIn files config call : StateM Session _).run s).1 =
    .ok (((runJobs (.console config.pretty) (freshProgress call) jobs :
      StateM Session _).run s).1.2.all fun x => x.2 = .written)

/-! ### Jobs that are kept apart -/

section Apart

variable {call : InitializerCall} {f g k : Files} {jobs jobs' : List Job}

lemma KeepApart.separate (h : KeepApart f call jobs) : Separate f call jobs where
  outputs := h.outputs
  inputs i hi j hj hne hproduct heq :=
    h.inputs i hi j hj hne hproduct (List.mem_append_right _ (List.mem_singleton.mpr heq))
  ways i hi j hj hproduct p hp hnone hmem :=
    h.ways i hi j hj hproduct p hp hnone (List.mem_append_left _ hmem)

lemma KeepApart.perm (h : KeepApart f call jobs) (hperm : jobs'.Perm jobs) :
    KeepApart f call jobs' where
  outputs := (hperm.map _).nodup_iff.mpr h.outputs
  inputs i hi j hj := h.inputs i (hperm.mem_iff.mp hi) j (hperm.mem_iff.mp hj)
  ways i hi j hj := h.ways i (hperm.mem_iff.mp hi) j (hperm.mem_iff.mp hj)

/-- The paths of inputs lead through what was there in the beginning. -/
lemma KeepApart.fileText_eq {front back : List Job} {j : Job} (h : KeepApart f call jobs)
    (hjobs : jobs = front ++ j :: back) (hover : Overlaid f (products call f front) g) :
    fileText g j.input = fileText f j.input := by
  have hj : j ∈ jobs := by simp [hjobs]
  have hread : g.read j.input = f.read j.input := by
    refine read_congr hover.working fun p hp => ?_
    have hno : ∀ o ∈ products call f front, placeOf f.working o.1 ≠ p := by
      rintro o ho rfl
      obtain ⟨i, hi, hne, hsome, houtput⟩ := h.separate.exists_job hjobs ho
      rw [← houtput] at hp
      exact h.inputs i hi j hj hne hsome hp
    refine (hover.kept p hno).resolve_right ?_
    rintro ⟨hnone, -, o, ho, hpo⟩
    obtain ⟨i, hi, -, hsome, houtput⟩ := h.separate.exists_job hjobs ho
    rw [← houtput] at hpo
    exact h.ways i hi j hj hsome p hpo hnone hp
  rw [fileText, fileText, hread]

lemma Overlaid.congr {outputs outputs' : List (String × String)} (h : Overlaid f outputs g)
    (hsame : ∀ o, o ∈ outputs' ↔ o ∈ outputs) : Overlaid f outputs' g where
  working := h.working
  output o ho := h.output o ((hsame o).mp ho)
  fresh o ho := h.fresh o ((hsame o).mp ho)
  way o ho := h.way o ((hsame o).mp ho)
  kept p hp := by
    simp only [hsame] at hp ⊢
    exact h.kept p hp

/-- The outputs decide what the files are in the end, in whatever order they were written. -/
lemma Overlaid.node?_eq {outputs outputs' : List (String × String)} (h : Overlaid f outputs g)
    (h' : Overlaid f outputs' k) (hsame : ∀ o, o ∈ outputs' ↔ o ∈ outputs) (p : List String) :
    k.node? p = g.node? p := by
  by_cases hp : ∃ o ∈ outputs, placeOf f.working o.1 = p
  · obtain ⟨o, ho, rfl⟩ := hp
    rw [h.output o ho, h'.output o ((hsame o).mpr ho)]
  · have hg := h.kept p fun o ho heq => hp ⟨o, ho, heq⟩
    have hk := h'.kept p fun o ho heq => hp ⟨o, (hsame o).mp ho, heq⟩
    rcases hk with hk | ⟨-, hk, o, ho, hpo⟩
    · rcases hg with hg | ⟨-, hg, o, ho, hpo⟩
      · rw [hk, hg]
      · rw [hg, isDirectory_iff.mp (h'.way o ((hsame o).mpr ho) p hpo)]
    · rw [hk, isDirectory_iff.mp (h.way o ((hsame o).mp ho) p hpo)]

end Apart

/-! ### Outputs that can be written -/

section Writing

variable {call : InitializerCall} {f g : Files} {outputs : List (String × String)}
  {o o' : String × String}

/-- No output is a directory on the way to an output. -/
lemma Overlaid.off (h : Overlaid f outputs g) (ho : o ∈ outputs) (ho' : o' ∈ outputs) :
    placeOf f.working o.1 ∉ wayTo f.working o'.1 := by
  intro hmem
  have hd := h.way o' ho' _ hmem
  rw [isDirectory_of_file (h.output o ho)] at hd
  cases hd

/-- What has been written in the end could be written in the beginning. -/
lemma Overlaid.writable (h : Overlaid f outputs g) (ho : o ∈ outputs) : Writable f o.1 where
  clear p hp := by
    have hno : ∀ o' ∈ outputs, placeOf f.working o'.1 ≠ p := by
      rintro o' ho' rfl
      exact h.off ho' ho hp
    rcases h.kept p hno with hsame | ⟨hnone, -⟩
    · exact Or.inr (isDirectory_congr hsame ▸ h.way o ho p hp)
    · exact Or.inl hnone
  place := h.fresh o ho
  off := h.off ho ho

/-- What can be written in the beginning can be written after other outputs. -/
lemma Writable.overlaid {path : String} (hw : Writable f path) (h : Overlaid f outputs g)
    (hnew : ∀ o ∈ outputs, placeOf f.working o.1 ≠ placeOf f.working path)
    (hoff : ∀ o ∈ outputs, placeOf f.working o.1 ∉ wayTo f.working path)
    (hway : ∀ o ∈ outputs, placeOf f.working path ∉ wayTo f.working o.1) : Writable g path := by
  have hworking := h.working
  constructor
  case clear =>
    intro p hp
    rw [hworking] at hp
    have hno : ∀ o ∈ outputs, placeOf f.working o.1 ≠ p := by
      rintro o ho rfl
      exact hoff o ho hp
    rcases h.kept p hno with hsame | ⟨-, hdir, -⟩
    · rw [isDirectory_congr hsame, hsame]
      exact hw.clear p hp
    · exact Or.inr (isDirectory_iff.mpr hdir)
  case place =>
    rw [hworking]
    rcases h.kept _ hnew with hsame | ⟨-, -, o, ho, hpo⟩
    · rw [isDirectory_congr hsame]
      exact hw.place
    · exact absurd hpo (hway o ho)
  case off =>
    rw [hworking]
    exact hw.off

lemma Writable.jobWrite (tree : IsTree g) {j : Job} (hpath : IsFilePath j.output)
    (h : Writable g j.output) (code : String) :
    ((j.write code : StateM Files _).run g).1 = .written ∧
      IsTree ((j.write code : StateM Files _).run g).2 := by
  obtain ⟨front, s, hc⟩ := hpath.name
  obtain ⟨hok, htree, hdirs⟩ := ensureParent_clear tree hc h.clear
  have hgrows := grows_ensureParent g j.output
  rw [jobWrite_run]
  generalize (ensureParent j.output : StateM Files _).run g = made at *
  obtain ⟨answer, k⟩ := made
  dsimp only at *
  subst hok
  have hworking : k.working = g.working := hgrows.working
  have hplace : k.isDirectory (placeOf g.working j.output) = false := by
    rcases hgrows.node (placeOf g.working j.output) with hsame | ⟨-, -, hmem⟩
    · rw [isDirectory_congr hsame]
      exact h.place
    · exact absurd hmem h.off
  have hwrite : k.write j.output (code ++ "\n").toUTF8 =
      .ok (k.set (placeOf g.working j.output) (.file (code ++ "\n").toUTF8)) := by
    refine (write_eq_ok_iff hc).mpr ?_
    rw [hworking]
    exact ⟨hdirs, hplace, hpath.plain, rfl⟩
  have hparent : (placeOf g.working j.output).dropLast ∈ wayTo g.working j.output := by
    rw [placeOf_of_concat hc, move, List.dropLast_concat, wayTo_of_concat hc]
    simp
  dsimp only
  rw [hwrite]
  exact ⟨rfl, htree.set_file (hdirs _ hparent) hplace⟩

/-- A job whose output can be written is not kept from writing. -/
lemma jobRun_writable (outlet : Outlet) {p : PublicPath.Progress}
    (hp : p.compiler.plugins = [call.plugin]) (tree : IsTree g) {j : Job}
    (hpath : IsFilePath j.output) (h : (product call g j.input).isSome → Writable g j.output) :
    NoWriteFails j ((j.run outlet p : StateM Files _).run g).1.2 ∧
      IsTree ((j.run outlet p : StateM Files _).run g).2 := by
  obtain ⟨p', -, hrun⟩ := jobRun_run outlet hp g j
  rw [hrun]
  cases hsource : fileText g j.input with
  | error e => exact ⟨fun cause hcause => ⟨e, (JobOutcome.failed.inj hcause).symm⟩, tree⟩
  | ok source =>
    dsimp only
    cases hcode : call.replace source with
    | error e =>
      refine ⟨fun cause hcause => ?_, tree⟩
      cases hcause
    | ok code =>
      have hsome : (product call g j.input).isSome := by
        simp [product, hsource, hcode, Except.toOption]
      obtain ⟨hwritten, htree⟩ := (h hsome).jobWrite tree hpath code
      dsimp only
      rw [hwritten]
      refine ⟨fun cause hcause => ?_, htree⟩
      cases hcause

end Writing

/-! ### Any order -/

section Orders

variable {call : InitializerCall} {f g k : Files} {jobs : List Job}

/-- What is on the way to an output of one order is not in the way of another. -/
lemma KeepApart.writable {front back : List Job} {j : Job} (h : KeepApart f call jobs)
    (hjobs : jobs = front ++ j :: back) (hend : Overlaid f (products call f jobs) k)
    (hover : Overlaid f (products call f front) g) (hsome : (product call f j.input).isSome) :
    Writable g j.output := by
  obtain ⟨text, htext⟩ := Option.isSome_iff_exists.mp hsome
  have hmine : (j.output, text) ∈ products call f jobs :=
    mem_products.mpr ⟨j, by simp [hjobs], htext, rfl⟩
  have hsub (o : String × String) (ho : o ∈ products call f front) :
      o ∈ products call f jobs := by
    obtain ⟨i, hi, hproduct, houtput⟩ := mem_products.mp ho
    exact mem_products.mpr ⟨i, by simp [hjobs, hi], hproduct, houtput⟩
  refine (hend.writable hmine).overlaid hover (fun o ho => ?_)
    (fun o ho => hend.off (hsub o ho) hmine) fun o ho => hend.off hmine (hsub o ho)
  obtain ⟨i, hi, -, houtput⟩ := mem_products.mp ho
  rw [← houtput]
  exact h.separate.place_ne hjobs hi

/-- A job does what it would do in the beginning. -/
lemma KeepApart.jobRun {front back : List Job} {j : Job} (outlet : Outlet)
    {p : PublicPath.Progress} (hp : p.compiler.plugins = [call.plugin])
    (h : KeepApart f call jobs) (hjobs : jobs = front ++ j :: back) (hpath : IsFilePath j.output)
    (hend : Overlaid f (products call f jobs) k) (hover : Overlaid f (products call f front) g)
    (tree : IsTree g) :
    ((j.run outlet p : StateM Files _).run g).1.2 = outcomeOf call f j ∧
      Overlaid f (products call f (front ++ [j])) ((j.run outlet p : StateM Files _).run g).2 ∧
        IsTree ((j.run outlet p : StateM Files _).run g).2 := by
  have htext := h.fileText_eq hjobs hover
  have hproduct : product call g j.input = product call f j.input := by
    rw [product, product, htext]
  obtain ⟨hok, htree⟩ := jobRun_writable outlet hp tree hpath
    fun hsome => h.writable hjobs hend hover (hproduct ▸ hsome)
  have hdoes := jobRun_does outlet hp hpath hok
  refine ⟨?_, hover.does hdoes hproduct fun i hi => h.separate.place_ne hjobs hi, htree⟩
  rw [hdoes.outcome, outcomeOf, outcomeOf, htext]

/-- Jobs that are kept apart do alike in any order, if all of their outputs were written in one. -/
theorem runJobs_anyOrder (outlet : Outlet) {p : PublicPath.Progress}
    (hp : p.compiler.plugins = [call.plugin]) (tree : IsTree f)
    (hpaths : ∀ j ∈ jobs, IsFilePath j.output) (h : KeepApart f call jobs)
    (hend : Overlaid f (products call f jobs) k) :
    ((runJobs outlet p jobs : StateM Files _).run f).1.2 =
        jobs.map (fun j => (j, outcomeOf call f j)) ∧
      Overlaid f (products call f jobs) ((runJobs outlet p jobs : StateM Files _).run f).2 := by
  obtain ⟨hjobs, hclaimed, hover, -⟩ := runJobs_invariant call outlet
    (fun front g => Overlaid f (products call f front) g ∧ IsTree g) (fun _ _ => True)
    (fun j o => o = outcomeOf call f j)
    (fun front j back hjobs p g hp hinv _ =>
      h.jobRun outlet hp hjobs (hpaths j (by simp [hjobs])) hend hinv.1 hinv.2)
    hp ⟨.refl f, tree⟩ fun _ _ => trivial
  refine ⟨?_, hover⟩
  generalize ((runJobs outlet p jobs : StateM Files _).run f).1.2 = outcomes at hjobs hclaimed ⊢
  calc outcomes
      = outcomes.map id := (List.map_id _).symm
    _ = outcomes.map fun x => (x.1, outcomeOf call f x.1) :=
      List.map_congr_left fun x hx => Prod.ext rfl (hclaimed x hx)
    _ = jobs.map fun j => (j, outcomeOf call f j) := by
      rw [← hjobs, List.map_map]
      rfl

end Orders

/-! ### Commands -/

section Commands

variable {call : InitializerCall}

/-- A command comes to the same in whatever order its jobs run, if they are kept apart and no write
fails in the order of its files. -/
theorem replaceIn_anyOrder (s : Session) (files : List String) (config : ProjectConfig)
    (tree : IsTree s.files)
    (h : KeepApart s.files call (jobsFor config.outDir files))
    (hwrites : ∀ x ∈ ((runJobs (.console config.pretty) (freshProgress call)
      (jobsFor config.outDir files) : StateM Session _).run s).1.2, NoWriteFails x.1 x.2)
    {jobs : List Job} (hperm : jobs.Perm (jobsFor config.outDir files)) :
    SameResult s files config call jobs := by
  have hpaths (j : Job) (hj : j ∈ jobsFor config.outDir files) := isFilePath_of_mem_jobsFor hj
  rw [(mirrors_runJobs _ _ _ s).1] at hwrites
  obtain ⟨-, -, hend⟩ := runJobs_overlaid _ rfl hpaths h.separate hwrites
  have hsame (o : String × String) : o ∈ products call s.files jobs ↔
      o ∈ products call s.files (jobsFor config.outDir files) := by
    simp only [mem_products, hperm.mem_iff]
  obtain ⟨hlisted, -⟩ := runJobs_anyOrder (.console config.pretty) (p := freshProgress call) rfl
    tree hpaths h hend
  obtain ⟨houtcomes, hover⟩ := runJobs_anyOrder (.console config.pretty) (p := freshProgress call)
    rfl tree (fun j hj => hpaths j (hperm.mem_iff.mp hj)) (h.perm hperm) (hend.congr hsame)
  obtain ⟨hranOutcomes, hranFiles⟩ := mirrors_runJobs (.console config.pretty) (freshProgress call)
    jobs s
  obtain ⟨hanswer, hfiles⟩ := mirrors_replaceIn files config call s
  rw [replaceIn_of_ok config s.files call (jobsOf_of_nodup h.separate.nodup_keys)] at hanswer hfiles
  constructor
  case nodes =>
    intro p
    rw [hranFiles, hfiles]
    exact hend.node?_eq hover hsame p
  case outcomes => rw [hranOutcomes, houtcomes]
  case answer =>
    rw [hanswer, hranOutcomes, houtcomes, hlisted]
    exact congrArg Except.ok (hperm.symm.map _).all_eq

end Commands

/-- Inputs of all kinds, from the last to the first. -/
theorem replaceIn_anyOrder_mixed :
    SameResult (.ofFiles mixed) ["a.js", "b.js", "c.js"] ⟨setPathCall, "dist", true⟩ setPathCall
      (jobsFor (some "dist") ["a.js", "b.js", "c.js"]).reverse := by
  have hapart : KeepApart mixed setPathCall (jobsFor (some "dist") ["a.js", "b.js", "c.js"]) :=
    ⟨by decide +kernel, by decide +kernel, by decide +kernel⟩
  have htree : IsTree mixed := isTree_of_nodes (by decide +kernel) (by decide +kernel)
  exact replaceIn_anyOrder (.ofFiles mixed) _ ⟨setPathCall, "dist", true⟩ htree hapart
    noWriteFails_mixed (List.reverse_perm _)

/-- The output for the first file is the second file. -/
def chained : Files :=
  ⟨[], [(["a.js"], .file "x = 1;".toUTF8), (["a.rewritten.js"], .file "y = 2;".toUTF8)]⟩

/-- These files are accepted, but the second one is read before or after the first one has replaced
it. -/
theorem order_of_chained :
    jobsOf none [] ["a.js", "a.rewritten.js"] =
        .ok (jobsFor none ["a.js", "a.rewritten.js"]) ∧
      (((runJobs (.console true) (freshProgress setPathCall)
        (jobsFor none ["a.js", "a.rewritten.js"]) :
          StateM Session _).run (.ofFiles chained)).2.files.read
            "a.rewritten.rewritten.js").toOption = some "x = setPath('checkout');\n".toUTF8 ∧
      (((runJobs (.console true) (freshProgress setPathCall)
        (jobsFor none ["a.js", "a.rewritten.js"]).reverse :
          StateM Session _).run (.ofFiles chained)).2.files.read
            "a.rewritten.rewritten.js").toOption = some "y = setPath('checkout');\n".toUTF8 := by
  refine ⟨by decide +kernel, by decide +kernel, by decide +kernel⟩

end PublicPath.Proofs
