import PublicPath.Proofs.Directories
import PublicPath.Proofs.LoadedProjects
import PublicPath.Proofs.StaticPaths

/-!
# What jobs do to files

A job reads its input and either leaves all files alone or writes one output, behind the directories
that it made on the way. What several jobs leave behind is the file system that they started with,
under their outputs.
-/

namespace PublicPath.Proofs
open Machine PublicPath.Path

/-- The text that comes of an input: its assignment with the call in the place of the value. -/
def Gives (call : InitializerCall) (f : Files) (input text : String) : Prop :=
  ∃ source a, fileText f input = .ok source ∧ Assignment.parse source = .ok a ∧
    text = a.target ++ " = " ++ call.initializer ++ "(" ++ Text.singleQuoted call.entryName ++
      ");" ++ "\n"

/-- The text that a job would write. -/
def product (call : InitializerCall) (f : Files) (input : String) : Option String :=
  match fileText f input with
  | .ok source => (call.replace source).toOption.map (· ++ "\n")
  | .error _ => none

/-- The file system `g` is `f` under some outputs, each a path with its text. -/
structure Overlaid (f : Files) (outputs : List (String × String)) (g : Files) : Prop where
  working : g.working = f.working
  output (o : String × String) : o ∈ outputs →
    g.node? (placeOf f.working o.1) = some (.file o.2.toUTF8)
  /-- No directory has given way. -/
  fresh (o : String × String) : o ∈ outputs → f.isDirectory (placeOf f.working o.1) = false
  way (o : String × String) : o ∈ outputs → ∀ p ∈ wayTo f.working o.1, g.isDirectory p = true
  /-- Whatever is no output is as before, but for missing directories on the way to outputs. -/
  kept (p : List String) : (∀ o ∈ outputs, placeOf f.working o.1 ≠ p) →
    g.node? p = f.node? p ∨
      f.node? p = none ∧ g.node? p = some .directory ∧ ∃ o ∈ outputs, p ∈ wayTo f.working o.1

/-! ### Texts -/

section Texts

variable {call : InitializerCall} {f g : Files} {input text : String}

lemma fileText_eq_ok_iff : fileText f input = .ok text ↔
    ∃ content, f.read input = .ok content ∧ String.fromUTF8? content = some text := by
  unfold fileText
  cases f.read input with
  | error e => simp
  | ok content => cases h : String.fromUTF8? content <;> simp [h]

lemma product_eq_some_iff : product call f input = some text ↔ Gives call f input text := by
  unfold product Gives
  cases fileText f input with
  | error e => simp
  | ok source =>
    cases ha : Assignment.parse source with
    | error e => simp [InitializerCall.replace, ha, Except.map, Except.toOption]
    | ok a =>
      simp [InitializerCall.replace, InitializerCall.assignTo, InitializerCall.text, ha, Except.map,
        Except.toOption, String.append_assoc, eq_comm]

lemma product_congr (h : ∀ content, g.read input = .ok content ↔ f.read input = .ok content) :
    product call g input = product call f input := by
  apply Option.ext
  intro text
  simp only [product_eq_some_iff, Gives, fileText_eq_ok_iff, h]

end Texts

/-! ### Overlays -/

section Overlays

variable {f g k : Files} {outputs : List (String × String)} {o : String × String}

lemma Overlaid.refl (f : Files) : Overlaid f [] f where
  working := rfl
  output := by simp
  fresh := by simp
  way := by simp
  kept _ _ := Or.inl rfl

lemma Overlaid.isDirectory (h : Overlaid f outputs g) {p : List String}
    (hd : f.isDirectory p = true) : g.isDirectory p = true := by
  have hno : ∀ o ∈ outputs, placeOf f.working o.1 ≠ p := by
    rintro o ho rfl
    rw [h.fresh o ho] at hd
    cases hd
  rcases h.kept p hno with hsame | ⟨-, hnew, -⟩
  · rwa [isDirectory_congr hsame]
  · exact isDirectory_iff.mpr hnew

/-- One more output, at a place of its own. -/
lemma Overlaid.snoc (h : Overlaid f outputs g) (h' : Overlaid g [o] k)
    (hnew : ∀ o' ∈ outputs, placeOf f.working o'.1 ≠ placeOf f.working o.1) :
    Overlaid f (outputs ++ [o]) k := by
  have hworking := h.working
  have hplace : k.node? (placeOf f.working o.1) = some (.file o.2.toUTF8) :=
    hworking ▸ h'.output o (by simp)
  have hkept (p : List String) (hp : placeOf f.working o.1 ≠ p) : k.node? p = g.node? p ∨
      g.node? p = none ∧ k.node? p = some .directory ∧ p ∈ wayTo f.working o.1 := by
    simpa [hworking] using h'.kept p (by simpa [hworking] using hp)
  constructor
  case working => exact h'.working.trans hworking
  case output =>
    intro o' ho'
    rcases List.mem_append.mp ho' with ho' | ho'
    · rcases hkept _ (hnew o' ho').symm with hsame | ⟨hnone, -⟩
      · rw [hsame, h.output o' ho']
      · rw [h.output o' ho'] at hnone
        cases hnone
    · rw [List.mem_singleton.mp ho', hplace]
  case fresh =>
    intro o' ho'
    rcases List.mem_append.mp ho' with ho' | ho'
    · exact h.fresh o' ho'
    · rw [List.mem_singleton.mp ho']
      by_contra hd
      have hg := h'.fresh o (by simp)
      rw [hworking, h.isDirectory (by simpa using hd)] at hg
      cases hg
  case way =>
    intro o' ho' p hp
    rcases List.mem_append.mp ho' with ho' | ho'
    · exact h'.isDirectory (h.way o' ho' p hp)
    · rw [List.mem_singleton.mp ho'] at hp
      exact h'.way o (by simp) p (hworking ▸ hp)
  case kept =>
    intro p hp
    have hold := h.kept p fun o' ho' => hp o' (List.mem_append_left _ ho')
    rcases hkept p (hp o (by simp)) with hsame | ⟨hnone, hdir, hway⟩
    · rw [hsame]
      refine hold.imp id fun ⟨hf, hg, o', ho', hp'⟩ => ⟨hf, hg, o', List.mem_append_left _ ho', hp'⟩
    · rcases hold with hsame | ⟨-, hg, -⟩
      · exact Or.inr ⟨hsame ▸ hnone, hdir, o, by simp, hway⟩
      · rw [hg] at hnone
        cases hnone

end Overlays

/-! ### Writing an output -/

section Writing

variable {f g : Files} {path : String}

lemma writeText_run (f : Files) (path text : String) :
    (writeText path text : StateM Files _).run f =
      match f.write path text.toUTF8 with
      | .ok g => (.ok (), g)
      | .error e => (.error e, f) := by
  change (changeFiles _).run f = _
  simp only [changeFiles, StateT.run_bind, StateT.run_get, pure_bind]
  cases f.write path text.toUTF8 <;> rfl

lemma jobWrite_run (f : Files) (j : Job) (code : String) :
    (j.write code : StateM Files _).run f =
      match (ensureParent j.output : StateM Files _).run f with
      | (.error e, g) => (.failed (.ofFault e), g)
      | (.ok (), g) =>
        match g.write j.output (code ++ "\n").toUTF8 with
        | .ok k => (.written, k)
        | .error e => (.failed (.ofFault e), g) := by
  rw [Job.write, StateT.run_bind]
  generalize (ensureParent j.output : StateM Files _).run f = made
  obtain ⟨answer, g⟩ := made
  cases answer with
  | error e => rfl
  | ok =>
    change StateT.run (writeText j.output (code ++ "\n") >>= _) g = _
    rw [StateT.run_bind, writeText_run]
    dsimp only
    cases g.write j.output (code ++ "\n").toUTF8 <;> rfl

/-- A file that is written behind directories that were made. -/
lemma overlaid_of_write {front : List Component} {s : String} {text : String}
    (hname : components path = front ++ [.name s]) (hgrows : Grows f g (wayTo f.working path))
    {k : Files} (hwrite : g.write path text.toUTF8 = .ok k) : Overlaid f [(path, text)] k := by
  obtain ⟨hdirs, hfile, -, rfl⟩ := (write_eq_ok_iff hname).mp hwrite
  rw [hgrows.working] at hdirs hfile
  have hne : placeOf f.working path ≠ [] := by simp [placeOf_of_concat hname, move]
  have hnode (p : List String) (hp : placeOf f.working path ≠ p) :
      (g.set (placeOf g.working path) (.file text.toUTF8)).node? p = g.node? p := by
    rw [hgrows.working]
    exact node?_set_of_ne hp.symm
  constructor
  case working => exact hgrows.working
  case output =>
    intro o ho
    rw [List.mem_singleton.mp ho, hgrows.working]
    exact node?_set_self hne
  case fresh =>
    intro o ho
    rw [List.mem_singleton.mp ho]
    by_contra hd
    have hd := hgrows.isDirectory (by simpa using hd)
    rw [hfile] at hd
    cases hd
  case way =>
    intro o ho p hp
    rw [List.mem_singleton.mp ho] at hp
    have hd := hdirs p hp
    rw [isDirectory_congr (hnode p ?_)]
    · exact hd
    · rintro rfl
      rw [hfile] at hd
      cases hd
  case kept =>
    intro p hp
    have hself : (path, text) ∈ [(path, text)] := List.mem_singleton.mpr rfl
    rw [hnode p (hp (path, text) hself)]
    refine (hgrows.node p).imp id ?_
    rintro ⟨hf, hg, hway⟩
    exact ⟨hf, hg, (path, text), hself, hway⟩

/-- A job has written its output, or it failed. -/
lemma jobWrite_cases (f : Files) (j : Job) (code : String) {front : List Component} {s : String}
    (hname : components j.output = front ++ [.name s]) :
    (∃ g, (j.write code : StateM Files _).run f = (.written, g) ∧
      Overlaid f [(j.output, code ++ "\n")] g) ∨
    ∃ e g, (j.write code : StateM Files _).run f = (.failed (.ofFault e), g) := by
  have hgrows := grows_ensureParent f j.output
  rw [jobWrite_run]
  generalize (ensureParent j.output : StateM Files _).run f = made at hgrows ⊢
  obtain ⟨answer, g⟩ := made
  cases answer with
  | error e => exact Or.inr ⟨e, g, rfl⟩
  | ok =>
    dsimp only
    cases hwrite : g.write j.output (code ++ "\n").toUTF8 with
    | ok k => exact Or.inl ⟨k, rfl, overlaid_of_write hname hgrows hwrite⟩
    | error e => exact Or.inr ⟨e, g, rfl⟩

end Writing

/-! ### Running a job -/

section Running

variable {call : InitializerCall} {f : Files}

lemma built_single (call : InitializerCall) (n : Nat) (chunk : Chunk) (source : String) :
    built call n [⟨chunk, [⟨.publicPath, source⟩]⟩] =
      { begun call n [⟨chunk, [⟨.publicPath, source⟩]⟩] with
        entries := [⟨chunk, [(showAll [call.plugin.tap] chunk ⟨.publicPath, source⟩).module]⟩]
        visited := [(chunk.id, 0)]
        mutated := (showAll [call.plugin.tap] chunk ⟨.publicPath, source⟩).mutated
        errors := (showAll [call.plugin.tap] chunk ⟨.publicPath, source⟩).errors } := by
  rw [built_eq]
  rfl

/-- The build of one public path module has errors, or it holds the text with the call. -/
lemma built_single_cases (call : InitializerCall) (n : Nat) (chunk : Chunk) (source : String) :
    (∃ e, call.replace source = .error e ∧
      (built call n [⟨chunk, [⟨.publicPath, source⟩]⟩]).hasErrors = true) ∨
    ∃ code, call.replace source = .ok code ∧
      (built call n [⟨chunk, [⟨.publicPath, source⟩]⟩]).hasErrors = false ∧
        (((built call n [⟨chunk, [⟨.publicPath, source⟩]⟩]).modulesOf chunk.id).getD
          []).head?.map (·.code) = some code := by
  rw [built_single]
  cases ha : Assignment.parse source with
  | error e =>
    rw [showAll_of_parse_error (m := ⟨.publicPath, source⟩) call chunk rfl ha]
    exact Or.inl ⟨e, by rw [InitializerCall.replace, ha]; rfl, rfl⟩
  | ok a =>
    rw [showAll_of_parse (m := ⟨.publicPath, source⟩) call chunk rfl ha]
    refine Or.inr ⟨call.assignTo a.target, by rw [InitializerCall.replace, ha]; rfl, rfl, ?_⟩
    simp [Compilation.modulesOf]

lemma tell_run (f : Files) (outlet : Outlet) (h : Handler) (told : List BuildEvent) :
    ∃ h', (tell outlet h told : StateM Files _).run f = (h', f) := by
  induction told generalizing h with
  | nil => exact ⟨h, rfl⟩
  | cons event told ih =>
    cases event with
    | log line => exact ih h
    | report d => exact ih (h.report d)

/-- A job fails to read its input, refuses it, or goes on to write its output. -/
lemma jobRun_run (outlet : Outlet) {p : PublicPath.Progress}
    (hp : p.compiler.plugins = [call.plugin]) (f : Files) (j : Job) :
    ∃ p' : PublicPath.Progress, p'.compiler.plugins = [call.plugin] ∧
      (j.run outlet p : StateM Files _).run f =
        match fileText f j.input with
        | .error e =>
          ((p', .failed ((Failure.ofFault e).within s!"Failed to read {j.input}")), f)
        | .ok source =>
          match call.replace source with
          | .error _ => ((p', .refused), f)
          | .ok code =>
            ((p', ((j.write code : StateM Files _).run f).1),
              ((j.write code : StateM Files _).run f).2) := by
  obtain ⟨⟨plugins, n⟩, handler⟩ := p
  cases hp
  rw [Job.run, run_bind_eq (readText_run f j.input)]
  cases fileText f j.input with
  | error e => exact ⟨⟨⟨_, n⟩, handler⟩, rfl, rfl⟩
  | ok source =>
    let chunk : Chunk := ⟨j.index, some (chunkName j.input)⟩
    obtain ⟨handler', htell⟩ := tell_run f outlet handler
      ((⟨[call.plugin], n⟩ : Compiler).run [⟨chunk, [⟨.publicPath, source⟩]⟩]).2.2
    refine ⟨⟨⟨_, n + 1⟩, handler'⟩, rfl, ?_⟩
    dsimp only
    rw [run_bind_eq htell]
    change StateT.run (if (built call n [⟨chunk, [⟨.publicPath, source⟩]⟩]).hasErrors = true then _
      else j.write (((((built call n [⟨chunk, [⟨.publicPath, source⟩]⟩]).modulesOf
        chunk.id).getD []).head?.map (·.code)).getD "") >>= _) f = _
    rcases built_single_cases call n chunk source with
      ⟨e, hreplace, herrors⟩ | ⟨code, hreplace, herrors, hcode⟩
    · rw [if_pos herrors, hreplace]
      rfl
    · rw [if_neg (by simp [herrors]), hreplace, hcode]
      rfl

/-- The jobs of a run keep an invariant if each of them does. What is claimed of the outcomes may
rest on what is assumed of them. -/
theorem runJobs_invariant (call : InitializerCall) (outlet : Outlet) (Inv : List Job → Files → Prop)
    (Assumed Claimed : Job → JobOutcome → Prop) {jobs : List Job}
    (hstep : ∀ front j back, jobs = front ++ j :: back → ∀ (p : PublicPath.Progress) (g : Files),
      p.compiler.plugins = [call.plugin] → Inv front g →
        Assumed j ((j.run outlet p : StateM Files _).run g).1.2 →
          Claimed j ((j.run outlet p : StateM Files _).run g).1.2 ∧
            Inv (front ++ [j]) ((j.run outlet p : StateM Files _).run g).2)
    {p : PublicPath.Progress} (hp : p.compiler.plugins = [call.plugin]) (h : Inv [] f)
    (hassumed : ∀ x ∈ ((runJobs outlet p jobs : StateM Files _).run f).1.2, Assumed x.1 x.2) :
    ((runJobs outlet p jobs : StateM Files _).run f).1.2.map Prod.fst = jobs ∧
      (∀ x ∈ ((runJobs outlet p jobs : StateM Files _).run f).1.2, Claimed x.1 x.2) ∧
        Inv jobs ((runJobs outlet p jobs : StateM Files _).run f).2 := by
  suffices hgen : ∀ back front, jobs = front ++ back → ∀ (p : PublicPath.Progress) (g : Files),
      p.compiler.plugins = [call.plugin] → Inv front g →
      (∀ x ∈ ((runJobs outlet p back : StateM Files _).run g).1.2, Assumed x.1 x.2) →
      ((runJobs outlet p back : StateM Files _).run g).1.2.map Prod.fst = back ∧
        (∀ x ∈ ((runJobs outlet p back : StateM Files _).run g).1.2, Claimed x.1 x.2) ∧
          Inv jobs ((runJobs outlet p back : StateM Files _).run g).2 from
    hgen jobs [] rfl p f hp h hassumed
  intro back
  induction back with
  | nil =>
    intro front hjobs p g _ hinv _
    rw [List.append_nil] at hjobs
    exact ⟨rfl, fun x hx => absurd hx List.not_mem_nil, hjobs ▸ hinv⟩
  | cons j back ih =>
    intro front hjobs p g hp hinv hassumed
    have hplugins : ((j.run outlet p : StateM Files _).run g).1.1.compiler.plugins =
        [call.plugin] := by
      obtain ⟨p', hp', hrun⟩ := jobRun_run outlet hp g j
      rw [hrun]
      split
      · exact hp'
      · split <;> exact hp'
    obtain ⟨hclaimed, hnext⟩ := hstep front j back hjobs p g hp hinv
      (hassumed (j, ((j.run outlet p : StateM Files _).run g).1.2) List.mem_cons_self)
    obtain ⟨hmap, hrest, hend⟩ := ih (front ++ [j]) (by simpa using hjobs) _ _ hplugins hnext
      fun x hx => hassumed x (List.mem_cons_of_mem _ hx)
    refine ⟨congrArg (j :: ·) hmap, fun x hx => ?_, hend⟩
    rcases List.mem_cons.mp hx with rfl | hx
    · exact hclaimed
    · exact hrest x hx

end Running

end PublicPath.Proofs
