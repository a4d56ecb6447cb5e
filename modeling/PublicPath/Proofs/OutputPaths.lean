import Mathlib.Data.List.Nodup
import PublicPath.Proofs.FilePlaces
import PublicPath.Proofs.QuietMachine

/-!
# Output paths

Files are refused as a whole if the outputs of two of them have the same components. Such outputs
name the same place. The converse holds where all outputs go to one directory, and where no file is
spelled with dots or steps back; elsewhere two spellings of one place are taken for two outputs.
-/

namespace PublicPath.Proofs
open PublicPath.Path

def outputName (file : String) : String := chunkName file ++ ".rewritten.js"

/-- The components of the directory of an output. -/
def outputDirectory (outDir : Option String) (file : String) : List Component :=
  match outDir with
  | some directory => components directory
  | none =>
    match fileName? file with
    | some _ => (components file).dropLast
    | none => components file

/-- The jobs of files, numbered in their order. -/
def jobsFor (outDir : Option String) (files : List String) : List Job :=
  files.zipIdx.map fun (file, i) => ⟨i, file, outputPath outDir file⟩

/-- What the outputs of files are compared by. -/
def outputKeys (outDir : Option String) (files : List String) : List (List Component) :=
  files.map fun file => components (outputPath outDir file)

/-- The places that the outputs of files name. -/
def outputPlaces (working : List String) (outDir : Option String) (files : List String) :
    List (List String) :=
  files.map fun file => placeOf working (outputPath outDir file)

/-- A path of names alone, from the root or from the working directory. -/
def IsStraight (absolute : Bool) (path : String) : Prop :=
  ∃ names : List String, components path = (if absolute then [.root] else []) ++ names.map .name

/-- A path that only a file can have. -/
structure IsFilePath (path : String) : Prop where
  name : ∃ front s, components path = front ++ [.name s]
  plain : Files.asksForDirectory path = false

/-- Two files at different positions whose outputs are refused for each other. -/
structure Clash (outDir : Option String) (files : List String) (failure : Failure) : Prop where
  exists_pair : ∃ first second : Nat, ∃ file other, first < second ∧
    files[first]? = some file ∧ files[second]? = some other ∧
      components (outputPath outDir file) = components (outputPath outDir other) ∧
        failure = .ofMessage
          s!"{file} and {other} would both be written to {outputPath outDir other}"

/-! ### Names of outputs -/

lemma mem_splitName {name : String} {c : Char} (h : c ∈ (splitName name).1.toList) :
    c ∈ name.toList := by
  unfold splitName at h
  dsimp only at h
  split at h
  · exact h
  · exact h
  · rename_i before _ hback
    have hmem : c ∈ name.toList.reverse.drop
        (name.toList.reverse.takeWhile (· ≠ '.')).length := by
      rw [hback]
      exact List.mem_cons_of_mem _ (by simpa using h)
    simpa using List.mem_of_mem_drop hmem

lemma isName_outputName (file : String) : IsName (outputName file) := by
  have hslash : '/' ∉ (chunkName file).toList := by
    unfold chunkName fileStem?
    cases hf : fileName? file with
    | none => decide
    | some n =>
      have hmem : Component.name n ∈ components file := by
        unfold fileName? at hf
        split at hf
        · exact List.mem_of_getLast? (Option.some.inj hf ▸ ‹_›)
        · cases hf
      exact fun h => (isName_of_mem_components hmem).noSlash (mem_splitName h)
  have hlength : 2 < (outputName file).toList.length := by simp [outputName]
  refine ⟨by simp [outputName, hslash], fun first => ?_⟩
  have hne (s : String) (hs : s.toList.length ≤ 2) : outputName file ≠ s := by
    rintro rfl
    omega
  simp [component?, hne "" (by decide), hne "." (by decide), hne ".." (by decide)]

theorem components_outputPath (outDir : Option String) (file : String) :
    components (outputPath outDir file) =
      outputDirectory outDir file ++ [.name (outputName file)] := by
  cases outDir with
  | some directory => exact components_join directory (isName_outputName file)
  | none => exact components_withFileName file (isName_outputName file)

lemma asksForDirectory_join (directory : String) {name : String} (hn : IsName name) :
    Files.asksForDirectory (join directory name) = false := by
  have hlast : (segments (join directory name)).getLast? = some name := by
    by_cases hd : directory = ""
    · have hjoin : join directory name = name := by simp [join, hd, hn.not_isAbsolute]
      rw [hjoin, segments_of_notMem hn.noSlash]
      rfl
    · obtain ⟨segs, -, hjoin, -⟩ := segments_join hn hd
      rw [hjoin, List.getLast?_concat]
  have hdot : name ≠ "." := by
    rintro rfl
    simpa [component?] using hn.component false
  unfold Files.asksForDirectory
  rw [hlast]
  split <;> simp_all [hn.ne_empty]

lemma asksForDirectory_outputPath (outDir : Option String) (file : String) :
    Files.asksForDirectory (outputPath outDir file) = false := by
  cases outDir with
  | some directory => exact asksForDirectory_join directory (isName_outputName file)
  | none =>
    change Files.asksForDirectory (withFileName file (outputName file)) = false
    unfold withFileName
    split <;> exact asksForDirectory_join _ (isName_outputName file)

lemma isFilePath_outputPath (outDir : Option String) (file : String) :
    IsFilePath (outputPath outDir file) :=
  ⟨⟨_, _, components_outputPath outDir file⟩, asksForDirectory_outputPath outDir file⟩

/-! ### Refusing files -/

section Refusing

variable {outDir : Option String}

lemma jobsFor_concat (files : List String) (file : String) :
    jobsFor outDir (files ++ [file]) =
      jobsFor outDir files ++ [⟨files.length, file, outputPath outDir file⟩] := by
  simp [jobsFor, List.zipIdx_append]

lemma mem_jobsFor {files : List String} {j : Job} : j ∈ jobsFor outDir files ↔
    files[j.index]? = some j.input ∧ j.output = outputPath outDir j.input := by
  obtain ⟨index, input, output⟩ := j
  simp only [jobsFor, List.mem_map, Prod.exists, List.mem_zipIdx_iff_getElem?, Job.mk.injEq]
  grind

lemma exists_mem_jobsFor (outDir : Option String) {files : List String} {file : String}
    (h : file ∈ files) :
    ∃ j ∈ jobsFor outDir files, j.input = file := by
  obtain ⟨i, hi⟩ := List.mem_iff_getElem?.mp h
  exact ⟨⟨i, file, outputPath outDir file⟩, mem_jobsFor.mpr ⟨hi, rfl⟩, rfl⟩

/-- The files behind those that have their jobs already. -/
lemma jobsOf_append (front files : List String) (hfront : (outputKeys outDir front).Nodup) :
    ((outputKeys outDir (front ++ files)).Nodup ∧
      jobsOf outDir (jobsFor outDir front) files = .ok (jobsFor outDir (front ++ files))) ∨
    ∃ failure, Clash outDir (front ++ files) failure ∧
      jobsOf outDir (jobsFor outDir front) files = .error failure := by
  induction files generalizing front with
  | nil => exact Or.inl (by simpa [jobsOf] using hfront)
  | cons file files ih =>
    rw [jobsOf]
    cases hfind : (jobsFor outDir front).find? fun j =>
        components j.output = components (outputPath outDir file) with
    | some j =>
      obtain ⟨hinput, houtput⟩ := mem_jobsFor.mp (List.mem_of_find?_eq_some hfind)
      have halike : components j.output = components (outputPath outDir file) := by
        simpa using List.find?_some hfind
      have hlt : j.index < front.length := (List.getElem?_eq_some_iff.mp hinput).1
      refine Or.inr ⟨_, ⟨j.index, front.length, j.input, file, hlt, ?_, ?_, ?_, rfl⟩, rfl⟩
      · rw [List.getElem?_append_left hlt, hinput]
      · simp
      · rw [← houtput, halike]
    | none =>
      have hnew : components (outputPath outDir file) ∉ outputKeys outDir front := by
        intro hmem
        obtain ⟨other, hother, heq⟩ := List.mem_map.mp hmem
        obtain ⟨j, hj, rfl⟩ := exists_mem_jobsFor outDir hother
        have hno := List.find?_eq_none.mp hfind j hj
        rw [(mem_jobsFor.mp hj).2] at hno
        exact hno (by simpa using heq)
      have hnodup : (outputKeys outDir (front ++ [file])).Nodup := by
        have hkeys : outputKeys outDir (front ++ [file]) =
            (outputKeys outDir front).concat (components (outputPath outDir file)) := by
          simp [outputKeys]
        rw [hkeys]
        exact hfront.concat hnew
      have hlength : (jobsFor outDir front).length = front.length := by simp [jobsFor]
      have hrest := ih (front ++ [file]) hnodup
      rw [jobsFor_concat, List.append_assoc] at hrest
      rw [hlength]
      exact hrest

/-- All files get their jobs in order, or two of them are refused for each other. -/
theorem jobsOf_cases (outDir : Option String) (files : List String) :
    ((outputKeys outDir files).Nodup ∧ jobsOf outDir [] files = .ok (jobsFor outDir files)) ∨
      ∃ failure, Clash outDir files failure ∧ jobsOf outDir [] files = .error failure :=
  jobsOf_append [] files List.nodup_nil

lemma Clash.not_nodup {files : List String} {failure : Failure}
    (h : Clash outDir files failure) : ¬ (outputKeys outDir files).Nodup := by
  obtain ⟨first, second, file, other, hlt, hfile, hother, halike, -⟩ := h.exists_pair
  intro hnodup
  have hfirst : (outputKeys outDir files)[first]? = some (components (outputPath outDir other)) := by
    simp [outputKeys, hfile, halike]
  have hsecond : (outputKeys outDir files)[second]? = some (components (outputPath outDir other)) := by
    simp [outputKeys, hother]
  have hbound : first < (outputKeys outDir files).length := (List.getElem?_eq_some_iff.mp hfirst).1
  have heq : first = second :=
    (List.getElem?_inj hbound hnodup).mp (hfirst.trans hsecond.symm)
  omega

lemma jobsOf_of_nodup {files : List String} (h : (outputKeys outDir files).Nodup) :
    jobsOf outDir [] files = .ok (jobsFor outDir files) := by
  rcases jobsOf_cases outDir files with ⟨-, hok⟩ | ⟨failure, hclash, -⟩
  · exact hok
  · exact absurd h hclash.not_nodup

lemma jobsOf_of_not_nodup {files : List String} (h : ¬ (outputKeys outDir files).Nodup) :
    ∃ failure, Clash outDir files failure ∧ jobsOf outDir [] files = .error failure :=
  (jobsOf_cases outDir files).resolve_left fun hok => h hok.1

end Refusing

/-! ### Keys and places -/

section Places

variable {outDir : Option String} {files : List String} (working : List String)

lemma outputPlaces_eq : outputPlaces working outDir files =
    (outputKeys outDir files).map fun key => key.foldl move working := by
  rw [outputPlaces, outputKeys, List.map_map]
  rfl

/-- Outputs at different places are told apart. -/
lemma nodup_keys_of_places (h : (outputPlaces working outDir files).Nodup) :
    (outputKeys outDir files).Nodup :=
  List.Nodup.of_map _ (outputPlaces_eq working ▸ h)

lemma foldl_move_names (place names : List String) :
    (names.map Component.name).foldl move place = place ++ names := by
  induction names generalizing place with
  | nil => simp
  | cons s names ih => simp [move, ih]

lemma IsStraight.outputPath {absolute : Bool} {file : String} (h : IsStraight absolute file) :
    IsStraight absolute (outputPath none file) := by
  obtain ⟨names, hnames⟩ := h
  obtain ⟨front, hfront⟩ : ∃ front : List String, outputDirectory none file =
      (if absolute then [.root] else []) ++ front.map .name := by
    unfold outputDirectory
    cases hf : fileName? file with
    | none => exact ⟨names, hnames⟩
    | some s =>
      rcases List.eq_nil_or_concat names with rfl | ⟨front, last, rfl⟩
      · -- a root has no name
        simp only [List.map_nil, List.append_nil] at hnames
        rw [fileName?, hnames] at hf
        cases absolute <;> cases hf
      · refine ⟨front, ?_⟩
        rw [hnames, List.concat_eq_append, List.map_append, ← List.append_assoc]
        exact List.dropLast_concat
  refine ⟨front ++ [outputName file], ?_⟩
  rw [components_outputPath, hfront, List.map_append, List.append_assoc]
  rfl

/-- In one directory, or beside files that are spelled straight, different keys are different
places. -/
lemma nodup_places_of_keys
    (hspelling : outDir.isSome ∨ ∃ absolute, ∀ file ∈ files, IsStraight absolute file)
    (h : (outputKeys outDir files).Nodup) : (outputPlaces working outDir files).Nodup := by
  rw [outputPlaces_eq]
  refine List.Nodup.map_on (fun key hkey key' hkey' heq => ?_) h
  obtain ⟨file, hfile, rfl⟩ := List.mem_map.mp hkey
  obtain ⟨other, hother, rfl⟩ := List.mem_map.mp hkey'
  cases outDir with
  | some directory =>
    simp only [components_outputPath, outputDirectory, List.foldl_append, List.foldl_cons,
      List.foldl_nil, move] at heq ⊢
    have hname : outputName file = outputName other := by simpa using heq
    rw [hname]
  | none =>
    obtain ⟨absolute, hstraight⟩ := hspelling.resolve_left (by simp)
    obtain ⟨names, hnames⟩ := (hstraight file hfile).outputPath
    obtain ⟨names', hnames'⟩ := (hstraight other hother).outputPath
    rw [hnames, hnames', List.foldl_append, List.foldl_append, foldl_move_names,
      foldl_move_names, List.append_cancel_left_eq] at heq
    rw [hnames, hnames', heq]

end Places

/-! ### The check of the outputs -/

lemma replaceIn_of_error {files : List String} {config : ProjectConfig} {failure : Failure}
    (f : Files) (call : InitializerCall) (h : jobsOf config.outDir [] files = .error failure) :
    (replaceIn files config call : StateM Files _).run f = (.error failure, f) := by
  rw [replaceIn, run_bind_eq (log_run f _), h]
  rfl

/-- What the check of the outputs comes to. -/
structure Checked (s : Session) (files : List String) (config : ProjectConfig)
    (call : InitializerCall) : Prop where
  /-- All files get their jobs, in order. -/
  accepted : (outputKeys config.outDir files).Nodup →
    jobsOf config.outDir [] files = .ok (jobsFor config.outDir files)
  /-- Two files are named, and nothing is written. -/
  refused : ¬ (outputKeys config.outDir files).Nodup →
    ∃ failure, Clash config.outDir files failure ∧
      ((replaceIn files config call : StateM Session _).run s).1 = .error failure ∧
        ((replaceIn files config call : StateM Session _).run s).2.files = s.files
  /-- Outputs at different places are never refused for each other. -/
  keys_of_places : (outputPlaces s.files.working config.outDir files).Nodup →
    (outputKeys config.outDir files).Nodup
  /-- Outputs at one place are refused for each other where they can be spelled in one way only. -/
  places_of_keys : config.outDir.isSome ∨ (∃ absolute, ∀ file ∈ files, IsStraight absolute file) →
    (outputKeys config.outDir files).Nodup →
      (outputPlaces s.files.working config.outDir files).Nodup

theorem replaceIn_checked (s : Session) (files : List String) (config : ProjectConfig)
    (call : InitializerCall) : Checked s files config call where
  accepted := jobsOf_of_nodup
  refused := by
    intro h
    obtain ⟨failure, hclash, hjobs⟩ := jobsOf_of_not_nodup h
    have hmirrors := mirrors_replaceIn files config call s
    rw [replaceIn_of_error s.files call hjobs] at hmirrors
    exact ⟨failure, hclash, hmirrors⟩
  keys_of_places := nodup_keys_of_places s.files.working
  places_of_keys := nodup_places_of_keys s.files.working

/-- Two files of one name, side by side. -/
def sameStem : Files :=
  ⟨[], [(["a.js"], .file "x = 1;".toUTF8), (["a.txt"], .file "y = 2;".toUTF8)]⟩

/-- The exit code of a command that ends. -/
def exitCode? : Ending → Option UInt8
  | .exit code => some code
  | .watching _ _ _ => none

/-- One file is spelled with a dot in front: the second output takes the place of the first. -/
theorem output_overwritten :
    outputPlaces [] none ["a.js", "./a.txt"] = [["a.rewritten.js"], ["a.rewritten.js"]] ∧
      (outputKeys none ["a.js", "./a.txt"]).Nodup ∧
      exitCode? ((runArguments ["rewrite", "--initializer", "setPath", "--entry-name", "checkout",
        "a.js", "./a.txt"] : StateM Session _).run (.ofFiles sameStem)).1 = some 0 ∧
      (((runArguments ["rewrite", "--initializer", "setPath", "--entry-name", "checkout",
        "a.js", "./a.txt"] : StateM Session _).run (.ofFiles sameStem)).2.files.read
          "a.rewritten.js").toOption = some "y = setPath('checkout');\n".toUTF8 := by
  refine ⟨by decide +kernel, by decide +kernel, by decide +kernel, by decide +kernel⟩

end PublicPath.Proofs
