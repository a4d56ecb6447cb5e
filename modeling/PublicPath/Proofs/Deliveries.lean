import PublicPath.Proofs.JobEffects

/-!
# Deliveries

A command puts exactly the texts that come of its inputs into their outputs, and touches nothing else
but for missing directories on the way to them. Its jobs run one after another, so that this needs
outputs, and directories made for them, to stay clear of the inputs of the other jobs.
-/

namespace PublicPath.Proofs
open Machine PublicPath.Path

/-- What the jobs of a command start with. -/
def freshProgress (call : InitializerCall) : PublicPath.Progress :=
  ⟨Compiler.empty.register call.plugin, .empty⟩

/-- What jobs have to write that all find their inputs as they are in `f`. -/
def products (call : InitializerCall) (f : Files) (jobs : List Job) : List (String × String) :=
  jobs.filterMap fun j => (product call f j.input).map (j.output, ·)

/-- The outcome of a job that finds its input as it is in `f`, and that no write fails. -/
def outcomeOf (call : InitializerCall) (f : Files) (j : Job) : JobOutcome :=
  match fileText f j.input with
  | .error e => .failed ((Failure.ofFault e).within s!"Failed to read {j.input}")
  | .ok source =>
    match call.replace source with
    | .error _ => .refused
    | .ok _ => .written

/-- If the job failed at all, then in reading its input: it was not kept from making directories or
from writing. -/
def NoWriteFails (j : Job) (o : JobOutcome) : Prop :=
  ∀ cause, o = .failed cause → ∃ e,
    cause = (Failure.ofFault e).within s!"Failed to read {j.input}"

/-- What a job does to the files `g` that is not kept from writing. -/
structure Does (call : InitializerCall) (g : Files) (j : Job) (o : JobOutcome) (k : Files) :
    Prop where
  outcome : o = outcomeOf call g j
  output (text : String) : product call g j.input = some text → Overlaid g [(j.output, text)] k
  nothing : product call g j.input = none → k = g

/-- Jobs that do not meet in their files. -/
structure Separate (f : Files) (call : InitializerCall) (jobs : List Job) : Prop where
  outputs : (jobs.map fun j => placeOf f.working j.output).Nodup
  /-- Nothing is written to the input of another job. -/
  inputs : ∀ i ∈ jobs, ∀ j ∈ jobs, i ≠ j → (product call f i.input).isSome →
    placeOf f.working i.output ≠ placeOf f.working j.input
  /-- No input is reached through a directory that is yet to be made. -/
  ways : ∀ i ∈ jobs, ∀ j ∈ jobs, (product call f i.input).isSome →
    ∀ p ∈ wayTo f.working i.output, f.node? p = none → p ∉ wayTo f.working j.input

/-- What a command leaves behind that found the files `f`, in an output directory if it has one. -/
structure Delivered (call : InitializerCall) (f : Files) (outDir : Option String)
    (files : List String) (ending : Ending) (g : Files) : Prop where
  /-- Each input that the call can be put into has its output. -/
  output (file text : String) : file ∈ files → Gives call f file text →
    g.read (outputPath outDir file) = .ok text.toUTF8
  /-- Nothing else is touched, but for directories that were missing on the way to such outputs. -/
  kept (p : List String) :
    (∀ file ∈ files, ∀ text, Gives call f file text →
      placeOf f.working (outputPath outDir file) ≠ p) →
    g.node? p = f.node? p ∨
      f.node? p = none ∧ g.node? p = some .directory ∧ ∃ file ∈ files, ∃ text,
        Gives call f file text ∧ p ∈ wayTo f.working (outputPath outDir file)
  success : (∀ file ∈ files, ∃ text, Gives call f file text) → ending = .exit 0
  failure : (∃ file ∈ files, ∀ text, ¬ Gives call f file text) → ending = .exit 1

/-! ### One job -/

section Doing

variable {call : InitializerCall} {f g k : Files} {j : Job} {o : JobOutcome}

lemma outcomeOf_eq_written_iff :
    outcomeOf call f j = .written ↔ (product call f j.input).isSome = true := by
  unfold outcomeOf product
  cases fileText f j.input with
  | error e => simp
  | ok source =>
    dsimp only
    cases call.replace source <;> simp [Except.toOption]

lemma jobRun_does (outlet : Outlet) {p : PublicPath.Progress}
    (hp : p.compiler.plugins = [call.plugin]) (hpath : IsFilePath j.output)
    (hwrites : NoWriteFails j ((j.run outlet p : StateM Files _).run g).1.2) :
    Does call g j ((j.run outlet p : StateM Files _).run g).1.2
      ((j.run outlet p : StateM Files _).run g).2 := by
  obtain ⟨front, s, hc⟩ := hpath.name
  obtain ⟨p', -, hrun⟩ := jobRun_run outlet hp g j
  rw [hrun] at hwrites ⊢
  cases hsource : fileText g j.input with
  | error e =>
    exact ⟨by simp [outcomeOf, hsource], by simp [product, hsource], fun _ => rfl⟩
  | ok source =>
    cases hcode : call.replace source with
    | error e =>
      exact ⟨by simp [outcomeOf, hsource, hcode],
        by simp [product, hsource, hcode, Except.toOption], fun _ => by simp [hcode]⟩
    | ok code =>
      simp only [hsource, hcode] at hwrites ⊢
      have hproduct : product call g j.input = some (code ++ "\n") := by
        simp [product, hsource, hcode, Except.toOption]
      rcases jobWrite_cases g j code hc with ⟨k, hwrite, hover⟩ | ⟨e, k, hwrite⟩
      · rw [hwrite]
        refine ⟨by simp [outcomeOf, hsource, hcode], fun text htext => ?_, by simp [hproduct]⟩
        cases hproduct.symm.trans htext
        exact hover
      · rw [hwrite] at hwrites
        obtain ⟨e', he'⟩ := hwrites _ rfl
        have hcauses := congrArg Failure.causes he'
        cases hcauses

lemma mem_products {jobs : List Job} {x : String × String} : x ∈ products call f jobs ↔
    ∃ j ∈ jobs, product call f j.input = some x.2 ∧ j.output = x.1 := by
  obtain ⟨output, text⟩ := x
  simp only [products, List.mem_filterMap, Option.map_eq_some_iff, Prod.mk.injEq]
  grind

lemma products_concat (jobs : List Job) (j : Job) : products call f (jobs ++ [j]) =
    products call f jobs ++ ((product call f j.input).map (j.output, ·)).toList := by
  rw [products, List.filterMap_append]
  cases h : product call f j.input <;> simp [products, h]

/-- A job that finds its input unchanged adds its own output. -/
lemma Overlaid.does {front : List Job} (h : Overlaid f (products call f front) g)
    (hdoes : Does call g j o k) (hsame : product call g j.input = product call f j.input)
    (hnew : ∀ i ∈ front, placeOf f.working i.output ≠ placeOf f.working j.output) :
    Overlaid f (products call f (front ++ [j])) k := by
  rw [products_concat, ← hsame]
  cases hproduct : product call g j.input with
  | none =>
    rw [hdoes.nothing hproduct]
    simpa using h
  | some text =>
    refine h.snoc (hdoes.output text hproduct) fun x hx => ?_
    obtain ⟨i, hi, -, houtput⟩ := mem_products.mp hx
    rw [← houtput]
    exact hnew i hi

end Doing

/-! ### Inputs under outputs -/

section Inputs

variable {call : InitializerCall} {f g : Files} {outputs : List (String × String)} {input : String}

/-- What can be read in the end could be read before. -/
lemma Overlaid.read_iff (h : Overlaid f outputs g)
    (hplace : ∀ o ∈ outputs, placeOf f.working o.1 ≠ placeOf f.working input)
    (hway : ∀ o ∈ outputs, ∀ p ∈ wayTo f.working o.1, f.node? p = none →
      p ∉ wayTo f.working input) (content : ByteArray) :
    g.read input = .ok content ↔ f.read input = .ok content := by
  have hdirs (p : List String) (hp : p ∈ wayTo f.working input) :
      g.isDirectory p = f.isDirectory p := by
    by_cases hout : ∃ o ∈ outputs, placeOf f.working o.1 = p
    · obtain ⟨o, ho, rfl⟩ := hout
      rw [h.fresh o ho, isDirectory_of_file (h.output o ho)]
    · rcases h.kept p fun o ho heq => hout ⟨o, ho, heq⟩ with hsame | ⟨hnone, -, o, ho, hpo⟩
      · exact isDirectory_congr hsame
      · exact absurd hp (hway o ho p hpo hnone)
  have hfile : g.node? (placeOf f.working input) = some (.file content) ↔
      f.node? (placeOf f.working input) = some (.file content) := by
    rcases h.kept _ hplace with hsame | ⟨hnone, hdir, -⟩
    · rw [hsame]
    · simp [hnone, hdir]
  rw [read_eq_ok_iff, read_eq_ok_iff, h.working, hfile]
  have hall : (∀ p ∈ wayTo f.working input, g.isDirectory p = true) ↔
      ∀ p ∈ wayTo f.working input, f.isDirectory p = true :=
    forall₂_congr fun p hp => by rw [hdirs p hp]
  rw [hall]

lemma Separate.place_ne {jobs front back : List Job} {i j : Job} (h : Separate f call jobs)
    (hjobs : jobs = front ++ j :: back) (hi : i ∈ front) :
    placeOf f.working i.output ≠ placeOf f.working j.output := by
  have hnodup := h.outputs
  rw [hjobs, List.map_append, List.map_cons] at hnodup
  exact (List.nodup_append.mp hnodup).2.2 _ (List.mem_map_of_mem hi) _ List.mem_cons_self

/-- An output that is there already is that of another job. -/
lemma Separate.exists_job {jobs front back : List Job} {j : Job} (h : Separate f call jobs)
    (hjobs : jobs = front ++ j :: back) {o : String × String} (ho : o ∈ products call f front) :
    ∃ i ∈ jobs, i ≠ j ∧ (product call f i.input).isSome = true ∧ i.output = o.1 := by
  obtain ⟨i, hi, hproduct, houtput⟩ := mem_products.mp ho
  refine ⟨i, by simp [hjobs, hi], ?_, by simp [hproduct], houtput⟩
  rintro rfl
  exact h.place_ne hjobs hi rfl

lemma Separate.product_eq {jobs front back : List Job} {j : Job} (h : Separate f call jobs)
    (hjobs : jobs = front ++ j :: back) (hover : Overlaid f (products call f front) g) :
    product call g j.input = product call f j.input := by
  have hj : j ∈ jobs := by simp [hjobs]
  refine product_congr (hover.read_iff (fun o ho => ?_) fun o ho => ?_)
  · obtain ⟨i, hi, hne, hsome, houtput⟩ := h.exists_job hjobs ho
    rw [← houtput]
    exact h.inputs i hi j hj hne hsome
  · obtain ⟨i, hi, -, hsome, houtput⟩ := h.exists_job hjobs ho
    rw [← houtput]
    exact h.ways i hi j hj hsome

end Inputs

/-! ### All jobs -/

section Runs

variable {call : InitializerCall} {f : Files} {jobs : List Job}

/-- Separate jobs leave all their products, on top of the files that they started with. -/
theorem runJobs_overlaid (outlet : Outlet) {p : PublicPath.Progress}
    (hp : p.compiler.plugins = [call.plugin]) (hpaths : ∀ j ∈ jobs, IsFilePath j.output)
    (h : Separate f call jobs)
    (hwrites : ∀ x ∈ ((runJobs outlet p jobs : StateM Files _).run f).1.2, NoWriteFails x.1 x.2) :
    ((runJobs outlet p jobs : StateM Files _).run f).1.2.map Prod.fst = jobs ∧
      (∀ x ∈ ((runJobs outlet p jobs : StateM Files _).run f).1.2,
        x.2 = .written ↔ (product call f x.1.input).isSome = true) ∧
        Overlaid f (products call f jobs) ((runJobs outlet p jobs : StateM Files _).run f).2 := by
  refine runJobs_invariant call outlet (fun front g => Overlaid f (products call f front) g)
    NoWriteFails (fun j o => o = .written ↔ (product call f j.input).isSome = true)
    ?_ hp (.refl f) hwrites
  intro front j back hjobs p g hp hover hok
  have hsame := h.product_eq hjobs hover
  have hdoes := jobRun_does outlet hp (hpaths j (by simp [hjobs])) hok
  refine ⟨?_, hover.does hdoes hsame fun i hi => h.place_ne hjobs hi⟩
  rw [hdoes.outcome, outcomeOf_eq_written_iff, hsame]

lemma tellOutcomes_run (f : Files) (outcomes : List (Job × JobOutcome)) :
    (tellOutcomes outcomes : StateM Files _).run f = ((), f) := by
  induction outcomes with
  | nil => rfl
  | cons x outcomes ih =>
    obtain ⟨j, outcome⟩ := x
    cases outcome <;> exact ih

lemma replaceIn_of_ok {files : List String} (config : ProjectConfig) (f : Files)
    (call : InitializerCall) (h : jobsOf config.outDir [] files = .ok jobs) :
    (replaceIn files config call : StateM Files _).run f =
      (.ok (((runJobs (.console config.pretty) (freshProgress call) jobs : StateM Files _).run f).1.2.all
        fun x => x.2 = .written),
        ((runJobs (.console config.pretty) (freshProgress call) jobs : StateM Files _).run f).2) := by
  rw [replaceIn, run_bind_eq (log_run f _), h]
  dsimp only
  rw [StateT.run_bind]
  change StateT.run (tellOutcomes _ >>= _) _ = _
  rw [run_bind_eq (tellOutcomes_run _ _)]
  unfold freshProgress
  generalize (List.all _ _) = allWritten
  cases allWritten <;> rfl

end Runs

/-! ### Commands -/

section Commands

variable {call : InitializerCall} {f g : Files} {outDir : Option String} {files : List String}

lemma isFilePath_of_mem_jobsFor {j : Job} (h : j ∈ jobsFor outDir files) :
    IsFilePath j.output :=
  (mem_jobsFor.mp h).2 ▸ isFilePath_outputPath _ _

lemma jobsFor_places (f : Files) (outDir : Option String) (files : List String) :
    ((jobsFor outDir files).map fun j => placeOf f.working j.output) =
      outputPlaces f.working outDir files := by
  rw [jobsFor, List.map_map, outputPlaces, ← List.zipIdx_map_fst 0 files, List.map_map,
    List.zipIdx_map_fst]
  rfl

lemma Separate.nodup_keys (h : Separate f call (jobsFor outDir files)) :
    (outputKeys outDir files).Nodup :=
  nodup_keys_of_places f.working (jobsFor_places f outDir files ▸ h.outputs)

lemma mem_products_jobsFor {output text : String} :
    (output, text) ∈ products call f (jobsFor outDir files) ↔
      ∃ file ∈ files, Gives call f file text ∧ outputPath outDir file = output := by
  rw [mem_products]
  constructor
  · rintro ⟨j, hj, hproduct, rfl⟩
    obtain ⟨hinput, houtput⟩ := mem_jobsFor.mp hj
    exact ⟨j.input, List.mem_of_getElem? hinput, product_eq_some_iff.mp hproduct, houtput.symm⟩
  · rintro ⟨file, hfile, hgives, rfl⟩
    obtain ⟨j, hj, rfl⟩ := exists_mem_jobsFor outDir hfile
    exact ⟨j, hj, product_eq_some_iff.mpr hgives, (mem_jobsFor.mp hj).2⟩

lemma Overlaid.read_output {outputs : List (String × String)} {output text : String}
    (h : Overlaid f outputs g) (ho : (output, text) ∈ outputs) (hpath : IsFilePath output) :
    g.read output = .ok text.toUTF8 := by
  refine read_eq_ok_iff.mpr ⟨?_, hpath.plain, ?_, ?_⟩
  · rintro rfl
    obtain ⟨front, s, hc⟩ := hpath.name
    simp [components_empty] at hc
  · rw [h.working]
    exact h.way (output, text) ho
  · rw [h.working]
    exact h.output (output, text) ho

lemma delivered_of_overlaid {outcomes : List (Job × JobOutcome)}
    (hjobs : outcomes.map Prod.fst = jobsFor outDir files)
    (hwritten : ∀ x ∈ outcomes, x.2 = .written ↔ (product call f x.1.input).isSome = true)
    (hover : Overlaid f (products call f (jobsFor outDir files)) g) :
    Delivered call f outDir files
      (.exit (if outcomes.all fun x => x.2 = .written then 0 else 1)) g := by
  constructor
  case output =>
    intro file text hfile hgives
    exact hover.read_output (mem_products_jobsFor.mpr ⟨file, hfile, hgives, rfl⟩)
      (isFilePath_outputPath _ _)
  case kept =>
    intro p hp
    refine (hover.kept p fun o ho => ?_).imp id ?_
    · obtain ⟨file, hfile, hgives, houtput⟩ := mem_products_jobsFor.mp ho
      exact houtput ▸ hp file hfile o.2 hgives
    · rintro ⟨hnone, hdir, o, ho, hpo⟩
      obtain ⟨file, hfile, hgives, houtput⟩ := mem_products_jobsFor.mp ho
      exact ⟨hnone, hdir, file, hfile, o.2, hgives, houtput ▸ hpo⟩
  case success =>
    intro hall
    rw [if_pos]
    refine List.all_eq_true.mpr fun x hx => decide_eq_true ((hwritten x hx).mpr ?_)
    have hjob : x.1 ∈ jobsFor outDir files := hjobs ▸ List.mem_map_of_mem hx
    obtain ⟨text, hgives⟩ := hall x.1.input (List.mem_of_getElem? (mem_jobsFor.mp hjob).1)
    rw [product_eq_some_iff.mpr hgives]
    rfl
  case failure =>
    rintro ⟨file, hfile, hno⟩
    obtain ⟨j, hj, rfl⟩ := exists_mem_jobsFor outDir hfile
    rw [← hjobs] at hj
    obtain ⟨x, hx, rfl⟩ := List.mem_map.mp hj
    rw [if_neg]
    intro hall
    have hsome := (hwritten x hx).mp (of_decide_eq_true (List.all_eq_true.mp hall x hx))
    obtain ⟨text, htext⟩ := Option.isSome_iff_exists.mp hsome
    exact hno text (product_eq_some_iff.mp htext)

/-- A command delivers if its jobs are separate and no write fails. -/
theorem runArguments_delivers {arguments : List String} {a : ReplaceArguments}
    {base : ProjectConfig} (hparse : Command.parse arguments = .ok (.replace a))
    (hwatch : a.watch = false) (s : Session) (hbase : startProject s.files a.project = .ok base)
    (hcall : effectiveCall a base = some call)
    (h : Separate s.files call (jobsFor (effectiveOutDir a base) a.files))
    (hwrites : ∀ x ∈ ((runJobs (.console (effectiveConfig a base call).pretty) (freshProgress call)
      (jobsFor (effectiveOutDir a base) a.files) : StateM Session _).run s).1.2,
        NoWriteFails x.1 x.2) :
    Delivered call s.files (effectiveOutDir a base) a.files
      ((runArguments arguments : StateM Session _).run s).1
      ((runArguments arguments : StateM Session _).run s).2.files := by
  obtain ⟨hending, hfiles⟩ := mirrors_runReplace hwatch s
  rw [(mirrors_runJobs _ _ _ s).1] at hwrites
  rw [runArguments_of_parse hparse, hending, hfiles,
    runReplace_of_ok hwatch (loadConfig_of_call hbase hcall),
    replaceIn_of_ok (effectiveConfig a base call) s.files call (jobsOf_of_nodup h.nodup_keys)]
  obtain ⟨hjobs, hwritten, hover⟩ :=
    runJobs_overlaid _ rfl (fun j hj => isFilePath_of_mem_jobsFor hj) h hwrites
  exact delivered_of_overlaid hjobs hwritten hover

end Commands

/-! ### Mixed inputs -/

def setPathCall : InitializerCall := ⟨"setPath", "checkout"⟩

/-- An assignment, and a statement that is none. -/
def mixed : Files :=
  ⟨[], [(["a.js"], .file "x = 1;".toUTF8), (["b.js"], .file "x += 1;".toUTF8)]⟩

/-- The one is rewritten, the other is refused, and a third input is not there. -/
lemma noWriteFails_mixed : ∀ x ∈ ((runJobs (.console true) (freshProgress setPathCall)
    (jobsFor (some "dist") ["a.js", "b.js", "c.js"]) : StateM Session _).run (.ofFiles mixed)).1.2,
      NoWriteFails x.1 x.2 := by
  have houtcomes : ((runJobs (.console true) (freshProgress setPathCall)
      (jobsFor (some "dist") ["a.js", "b.js", "c.js"]) : StateM Session _).run (.ofFiles mixed)).1.2 =
      [(⟨0, "a.js", "dist/a.rewritten.js"⟩, .written), (⟨1, "b.js", "dist/b.rewritten.js"⟩, .refused),
        (⟨2, "c.js", "dist/c.rewritten.js"⟩,
          .failed ((Failure.ofFault .notFound).within "Failed to read c.js"))] := by
    decide +kernel
  rw [houtcomes]
  intro x hx cause hcause
  simp only [List.mem_cons, List.not_mem_nil, or_false] at hx
  obtain rfl | rfl | rfl := hx
  · cases hcause
  · cases hcause
  · exact ⟨.notFound, (JobOutcome.failed.inj hcause).symm⟩

theorem runArguments_delivers_mixed :
    Delivered setPathCall mixed (some "dist") ["a.js", "b.js", "c.js"]
      ((runArguments ["rewrite", "--initializer", "setPath", "--entry-name", "checkout",
        "--out-dir", "dist", "a.js", "b.js", "c.js"] : StateM Session _).run (.ofFiles mixed)).1
      ((runArguments ["rewrite", "--initializer", "setPath", "--entry-name", "checkout",
        "--out-dir", "dist", "a.js", "b.js", "c.js"] :
          StateM Session _).run (.ofFiles mixed)).2.files := by
  have hparse : Command.parse ["rewrite", "--initializer", "setPath", "--entry-name", "checkout",
      "--out-dir", "dist", "a.js", "b.js", "c.js"] = .ok (.replace
        ⟨["a.js", "b.js", "c.js"], none, "setPath", "checkout", "dist", false, false⟩) := by
    decide +kernel
  have hstart : startProject mixed none = .ok .default := by decide +kernel
  have hseparate : Separate mixed setPathCall (jobsFor (some "dist") ["a.js", "b.js", "c.js"]) :=
    ⟨by decide +kernel, by decide +kernel, by decide +kernel⟩
  exact runArguments_delivers hparse rfl (.ofFiles mixed) hstart rfl hseparate noWriteFails_mixed

/-- Two assignments. -/
def twoAssignments : Files :=
  ⟨[], [(["a.js"], .file "x = 2;".toUTF8), (["b.js"], .file "x = 1;".toUTF8)]⟩

/-- The directory for the first output opens the way to the second input, which could not be read
before. -/
theorem output_of_unreadable :
    Command.parse ["rewrite", "--initializer", "setPath", "--entry-name", "checkout",
        "--out-dir", "dist", "b.js", "dist/../a.js"] =
      .ok (.replace ⟨["b.js", "dist/../a.js"], none, "setPath", "checkout", "dist", false, false⟩) ∧
    startProject twoAssignments none = .ok .default ∧
    (outputPlaces [] (some "dist") ["b.js", "dist/../a.js"]).Nodup ∧
    (∀ output ∈ outputPlaces [] (some "dist") ["b.js", "dist/../a.js"],
      ∀ input ∈ ["b.js", "dist/../a.js"], placeOf [] input ≠ output) ∧
    fileText twoAssignments "dist/../a.js" = .error .notFound ∧
    exitCode? ((runArguments ["rewrite", "--initializer", "setPath", "--entry-name", "checkout",
      "--out-dir", "dist", "b.js", "dist/../a.js"] :
        StateM Session _).run (.ofFiles twoAssignments)).1 = some 0 ∧
    (((runArguments ["rewrite", "--initializer", "setPath", "--entry-name", "checkout",
      "--out-dir", "dist", "b.js", "dist/../a.js"] :
        StateM Session _).run (.ofFiles twoAssignments)).2.files.read
          "dist/a.rewritten.js").toOption = some "x = setPath('checkout');\n".toUTF8 := by
  refine ⟨by decide +kernel, by decide +kernel, by decide +kernel, by decide +kernel,
    by decide +kernel, by decide +kernel, by decide +kernel⟩

end PublicPath.Proofs
