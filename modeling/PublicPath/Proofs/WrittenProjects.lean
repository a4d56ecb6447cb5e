import PublicPath.Config.Document
import PublicPath.Json.Equality
import PublicPath.Proofs.Deliveries
import PublicPath.Proofs.OrderedValues
import PublicPath.Proofs.SuppliedOptions

/-!
# Written projects

The generic value of a project can be read again, and so can that of a call. The text of a project
can be read from the file that it is written to, as far as the text format keeps generic values.
-/

namespace PublicPath.Proofs
open Json Machine PublicPath.Path

mutual

/-- The generic value of what is written. -/
def valueOf : Yaml.Written → Json
  | .text s => .string s
  | .flag b => .bool b
  | .mapping members => .ofMembers (valuesOf members)

def valuesOf : List (String × Yaml.Written) → List (String × Json)
  | [] => []
  | (name, value) :: rest => (name, valueOf value) :: valuesOf rest

end

/-- The text of some members reads back as their values. -/
def IsReproduced (members : List (String × Yaml.Written)) : Prop :=
  Yaml.parse (String.ofList (Yaml.writeMembers 0 members)) = .ok (valueOf (.mapping members))

instance (members : List (String × Yaml.Written)) : Decidable (IsReproduced members) :=
  inferInstanceAs (Decidable (_ = _))

/-- The extension makes a file one that is read as YAML. -/
def IsYamlPath (path : String) : Prop :=
  extension? path = some "yaml" ∨ extension? path = some "yml"

/-! ### Calls -/

section Calls

variable {v : Json} {c : InitializerCall}

lemma ordered_call (c : InitializerCall) : ordered c.toJson =
    .object [("entryName", .string c.entryName), ("initializer", .string c.initializer)] := by
  rfl

lemma ofJson_ordered_call (c : InitializerCall) :
    InitializerCall.ofJson (ordered c.toJson) = .ok c := by
  rw [ordered_call]
  rfl

lemma ordered_call_of_ofJson (hv : ordered v = v) (h : InitializerCall.ofJson v = .ok c) :
    ordered c.toJson = v := by
  have hfits : Fits .initializerCall v := by
    by_contra hno
    rw [ofJson_of_not_fits hno] at h
    cases h
  obtain ⟨call, hcall, hinitializer, hentryName⟩ := ofJson_of_fits hfits
  obtain rfl : call = c := Except.ok.inj (hcall.symm.trans h)
  obtain ⟨members, rfl⟩ := hfits.isObject
  rw [ordered_call]
  refine congrArg Json.object (eq_of_lookup_eq ?_ (pairwise_of_ordered hv) fun name => ?_)
  · simpa using (by decide : "entryName" < "initializer")
  · rw [lookup_cons_eq_ite, lookup_cons_eq_ite, List.lookup_nil]
    split_ifs with hfirst hsecond
    · rw [hfirst]
      exact hentryName.symm
    · rw [hsecond]
      exact hinitializer.symm
    · refine (lookup_eq_none_iff_notMem.mpr fun hkey => ?_).symm
      obtain ⟨f, hf, hname⟩ := hfits.listed name hkey
      rcases List.mem_pair.mp hf with rfl | rfl
      · exact hsecond hname.symm
      · exact hfirst hname.symm

end Calls

/-! ### Projects -/

section Projects

lemma ordered_project (p : ProjectConfig) : ordered p.toJson =
    .object ((p.outDir.map fun s => ("outDir", Json.string s)).toList ++ ("pretty", .bool p.pretty) ::
      (p.call.map fun c => ("rewrite", ordered c.toJson)).toList) := by
  obtain ⟨call, outDir, pretty⟩ := p
  cases call <;> cases outDir <;> rfl

lemma valueOf_written (p : ProjectConfig) : valueOf (.mapping p.written) = ordered p.toJson := by
  obtain ⟨call, outDir, pretty⟩ := p
  cases call <;> cases outDir <;> rfl

lemma ofJson_ordered_project (p : ProjectConfig) :
    ProjectConfig.ofJson (ordered p.toJson) = .ok p := by
  obtain ⟨call, outDir, pretty⟩ := p
  rw [ordered_project]
  cases call <;> cases outDir <;> rfl

end Projects

/-! ### Files -/

section Files

variable {f g : Files} {path text : String}

lemma exists_name_of_extension? {extension : String} (h : extension? path = some extension) :
    ∃ front s, components path = front ++ [.name s] := by
  obtain ⟨name, hname, -⟩ := Option.bind_eq_some_iff.mp h
  unfold fileName? at hname
  split at hname
  · rename_i s hlast
    exact ⟨_, s, (List.dropLast_append_getLast? _ hlast).symm⟩
  · cases hname

lemma fileText_of_writeText (hname : ∃ front s, components path = front ++ [.name s])
    (h : (writeText path text : StateM Files _).run f = (.ok (), g)) :
    fileText g path = .ok text := by
  rw [writeText_run] at h
  split at h
  · rename_i hwrite
    cases h
    obtain ⟨front, s, hcomponents⟩ := hname
    have hplain := ((write_eq_ok_iff hcomponents).mp hwrite).2.2.1
    have hover := overlaid_of_write hcomponents (Grows.refl f _) hwrite
    have hread := hover.read_output (List.mem_singleton.mpr rfl) ⟨⟨front, s, hcomponents⟩, hplain⟩
    exact fileText_eq_ok_iff.mpr ⟨_, hread, dif_pos text.isValidUTF8⟩
  · cases h

lemma ofFile_of_yaml {p : ProjectConfig} (hpath : IsYamlPath path)
    (htext : fileText f path = .ok text) (hparse : Yaml.parse text = .ok (ordered p.toJson)) :
    ProjectConfig.ofFile path (fileText f path) = .ok p := by
  have hdocument : readDocument path text = .ok (ordered p.toJson) := by
    rcases hpath with h | h <;> simp only [readDocument, h, hparse]
  rw [htext]
  simp only [ProjectConfig.ofFile, hdocument, ofJson_ordered_project]

/-- The options in a file are the value of the call that they are read as. -/
lemma readDocument_of_ofFile {content : String} {c : InitializerCall}
    (h : InitializerCall.ofFile path (.ok content) = .ok c) :
    readDocument path content = .ok (ordered c.toJson) := by
  unfold InitializerCall.ofFile at h
  dsimp only at h
  split at h
  · cases h
  rename_i v hv
  split at h
  · cases h
    rw [hv, ordered_call_of_ofJson (ordered_of_readDocument hv) ‹_›]
  · cases h

end Files

/-- The value of a project or a call is read as the same project or call, and a value that is read
as a call is the value of that call; so is the value of every file that a call is read from. Writing
a project to a file and reading the file gives the project, provided that the text of its members
reads back as their values. -/
theorem written_isRead :
    (∀ p : ProjectConfig, ProjectConfig.ofJson (ordered p.toJson) = .ok p) ∧
      (∀ (p : ProjectConfig) (f g : Files) (path : String), IsYamlPath path →
        IsReproduced p.written →
          (writeText path p.toYaml : StateM Files _).run f = (.ok (), g) →
            ProjectConfig.ofFile path (fileText g path) = .ok p) ∧
      (∀ c : InitializerCall, InitializerCall.ofJson (ordered c.toJson) = .ok c) ∧
      (∀ v c, ordered v = v → InitializerCall.ofJson v = .ok c → ordered c.toJson = v) ∧
      ∀ path content c, InitializerCall.ofFile path (.ok content) = .ok c →
        readDocument path content = .ok (ordered c.toJson) := by
  refine ⟨ofJson_ordered_project, ?_, ofJson_ordered_call, fun v c => ordered_call_of_ofJson,
    fun path content c => readDocument_of_ofFile⟩
  intro p f g path hpath hreproduced hwrite
  have hparse : Yaml.parse p.toYaml = .ok (ordered p.toJson) := valueOf_written p ▸ hreproduced
  have hname : ∃ front s, components path = front ++ [.name s] :=
    hpath.elim exists_name_of_extension? exists_name_of_extension?
  exact ofFile_of_yaml hpath (fileText_of_writeText hname hwrite) hparse

/-- Two texts that are written in quotes, and one of two lines. -/
def hardTexts : ProjectConfig := ⟨some ⟨"no", "it's: #1"⟩, some "a\nb", false⟩

/-- The options in a file, not in the order of their names. -/
def appOptions : String := "initializer: ''\nentryName: app\n"

theorem written_isRead_hardTexts :
    ProjectConfig.ofFile "p.yaml" (fileText
        ((writeText "p.yaml" hardTexts.toYaml : StateM Files _).run ⟨[], []⟩).2 "p.yaml") =
      .ok hardTexts ∧
    ordered (InitializerCall.toJson ⟨"", "app"⟩) =
      .object [("entryName", .string "app"), ("initializer", .string "")] ∧
    readDocument "o.yml" appOptions = .ok (ordered (InitializerCall.toJson ⟨"", "app"⟩)) := by
  have hwrite : ((writeText "p.yaml" hardTexts.toYaml : StateM Files _).run ⟨[], []⟩).1 = .ok () := by
    decide +kernel
  have hoptions : InitializerCall.ofFile "o.yml" (.ok appOptions) = .ok ⟨"", "app"⟩ := by
    decide +kernel
  obtain ⟨-, hfile, -, hvalue, hdocument⟩ := written_isRead
  exact ⟨hfile hardTexts ⟨[], []⟩ _ "p.yaml" (.inl (by decide +kernel)) (by decide +kernel)
      (Prod.ext hwrite rfl),
    hvalue _ _ (by decide) rfl, hdocument _ _ _ hoptions⟩

end PublicPath.Proofs
