import Mathlib.Tactic.Common
import PublicPath.Build.ModuleKind

/-!
# Host names

A host name stands for a kind with and without one front part, and a front part behind the first
belongs to the name itself. So the names of a kind are one bare name and the same name behind the
front part, and the whole host name of a kind leads back to it.
-/

namespace PublicPath.Proofs
open ModuleKind

/-- What a host name says without one front part. -/
inductive IsBareOf : String → String → Prop
  | scoped (bare : String) : IsBareOf bare (hostScope ++ bare)
  | plain {name : String} (h : ¬ hostScope.toList <+: name.toList) : IsBareOf name name

section

variable {name bare : String}

lemma exists_scoped (h : hostScope.toList <+: name.toList) : ∃ bare, name = hostScope ++ bare := by
  obtain ⟨cs, hcs⟩ := h
  refine ⟨String.ofList cs, ?_⟩
  rw [← String.toList_inj, String.toList_append, String.toList_ofList, hcs]

lemma bareName_scoped (bare : String) : bareName (hostScope ++ bare) = bare := by
  have hfront : hostScope.toList.isPrefixOf (hostScope ++ bare).toList = true := by
    rw [List.isPrefixOf_iff_prefix, String.toList_append]
    exact List.prefix_append _ _
  rw [bareName, if_pos hfront, String.toList_append, List.drop_left, String.ofList_toList]

lemma bareName_plain (h : ¬ hostScope.toList <+: name.toList) : bareName name = name := by
  rw [bareName, if_neg (by rwa [List.isPrefixOf_iff_prefix])]

/-- Every name has one bare name. -/
lemma bareName_eq_iff : bareName name = bare ↔ IsBareOf bare name := by
  constructor
  · rintro rfl
    by_cases h : hostScope.toList <+: name.toList
    · obtain ⟨bare, rfl⟩ := exists_scoped h
      rw [bareName_scoped]
      exact .scoped bare
    · rw [bareName_plain h]
      exact .plain h
  · rintro (_ | h)
    · exact bareName_scoped bare
    · exact bareName_plain h

lemma ofBareName_injective : Function.Injective ofBareName :=
  Function.LeftInverse.injective hostName_ofBareName

lemma title_ofHostName (name : String) : (ofHostName name).title = hostScope ++ bareName name := by
  rw [title, ofHostName, hostName_ofBareName]

lemma ofHostName_eq_iff {other : String} :
    ofHostName name = ofHostName other ↔ bareName name = bareName other :=
  ofBareName_injective.eq_iff

end

/-- The whole host name of the kind of a name is the name with a front part, added where there is
none, and has the same kind. Names have one kind exactly where they have one bare name, and the
static public path has no further names. -/
theorem ofHostName_title (name : String) :
    ofHostName (ofHostName name).title = ofHostName name ∧
      (ofHostName name).title =
        (if hostScope.toList <+: name.toList then name else hostScope ++ name) ∧
      (∀ other, ofHostName name = ofHostName other ↔
        ∃ bare, IsBareOf bare name ∧ IsBareOf bare other) ∧
      ((ofHostName name).isPublicPath = true ↔
        name = "publicPath" ∨ name = "webpack/runtime/publicPath") := by
  refine ⟨?_, ?_, fun other => ?_, ?_⟩
  · rw [title_ofHostName, ofHostName_eq_iff, bareName_scoped]
  · rw [title_ofHostName]
    split_ifs with h
    · obtain ⟨bare, rfl⟩ := exists_scoped h
      rw [bareName_scoped]
    · rw [bareName_plain h]
  · rw [ofHostName_eq_iff]
    constructor
    · intro h
      exact ⟨_, bareName_eq_iff.mp h, bareName_eq_iff.mp rfl⟩
    · rintro ⟨bare, hname, hother⟩
      rw [bareName_eq_iff.mpr hname, bareName_eq_iff.mpr hother]
  · have hkind : publicPath = ofBareName "publicPath" := rfl
    rw [isPublicPath, beq_iff_eq, ofHostName, hkind, ofBareName_injective.eq_iff, bareName_eq_iff]
    constructor
    · rintro (_ | _)
      · exact .inr rfl
      · exact .inl rfl
    · rintro (rfl | rfl)
      · exact .plain (by decide)
      · exact .scoped "publicPath"

/-- Of two front parts the second stays in the name. -/
example : ofHostName "webpack/runtime/webpack/runtime/publicPath" =
    .other "webpack/runtime/publicPath" := by decide +kernel

end PublicPath.Proofs
