import Mathlib.Data.List.Basic
import Mathlib.Tactic.Common
import PublicPath.CommandLine.Jobs

/-!
# Components of paths

What joining a name, taking the parent and putting another name in the place of the last one do to
the components of a path. The text of a path matters only through its segments, and a segment that
counts for nothing can be dropped behind the first one.
-/

namespace PublicPath.Proofs
open PublicPath.Path Text

/-! ### Pieces -/

section Pieces

variable {separator : Char}

lemma pieces_of_notMem {cs : List Char} (h : separator ∉ cs) : pieces separator cs = [cs] := by
  induction cs with
  | nil => rfl
  | cons c cs ih =>
    rw [List.mem_cons, not_or] at h
    rw [pieces, if_neg (Ne.symm h.1), ih h.2]

lemma pieces_append_cons (cs ds : List Char) : pieces separator (cs ++ separator :: ds) =
    pieces separator cs ++ pieces separator ds := by
  induction cs with
  | nil => simp [pieces]
  | cons c cs ih =>
    obtain ⟨first, rest, hp⟩ := List.exists_cons_of_ne_nil (pieces_ne_nil separator cs)
    rw [List.cons_append, pieces, pieces, ih, hp]
    split <;> simp

lemma notMem_of_mem_pieces {cs p : List Char} (h : p ∈ pieces separator cs) : separator ∉ p := by
  induction cs generalizing p with
  | nil => simp_all [pieces]
  | cons c cs ih =>
    obtain ⟨first, rest, hp⟩ := List.exists_cons_of_ne_nil (pieces_ne_nil separator cs)
    rw [hp] at ih
    rw [pieces, hp] at h
    split at h
    · rcases List.mem_cons.mp h with rfl | h
      · simp
      · exact ih h
    · rename_i hc
      rcases List.mem_cons.mp h with rfl | h
      · simpa [Ne.symm hc] using ih List.mem_cons_self
      · exact ih (List.mem_cons_of_mem _ h)

lemma pieces_intercalate {l : List (List Char)} (hl : l ≠ []) (h : ∀ p ∈ l, separator ∉ p) :
    pieces separator ([separator].intercalate l) = l := by
  induction l with
  | nil => exact absurd rfl hl
  | cons p l ih =>
    have hp := pieces_of_notMem (h p List.mem_cons_self)
    cases l with
    | nil => simpa [List.intercalate] using hp
    | cons q l =>
      have hrest : [separator].intercalate (p :: q :: l) =
          p ++ separator :: [separator].intercalate (q :: l) := by
        simp [List.intercalate, List.intersperse]
      rw [hrest, pieces_append_cons, hp,
        ih (List.cons_ne_nil _ _) fun x hx => h x (List.mem_cons_of_mem _ hx)]
      rfl

end Pieces

/-! ### Segments -/

lemma segments_ne_nil (path : String) : segments path ≠ [] := by
  simp [segments, pieces_ne_nil]

lemma notMem_of_mem_segments {path s : String} (h : s ∈ segments path) : '/' ∉ s.toList := by
  obtain ⟨p, hp, rfl⟩ := List.mem_map.mp h
  simpa using notMem_of_mem_pieces hp

lemma segments_of_notMem {s : String} (h : '/' ∉ s.toList) : segments s = [s] := by
  simp [segments, pieces_of_notMem h]

lemma segments_slash (s t : String) : segments (s ++ "/" ++ t) = segments s ++ segments t := by
  simp [segments, pieces_append_cons]

lemma segments_intercalate {l : List String} (hl : l ≠ []) (h : ∀ s ∈ l, '/' ∉ s.toList) :
    segments ("/".intercalate l) = l := by
  have hp : pieces '/' (['/'].intercalate (l.map String.toList)) = l.map String.toList :=
    pieces_intercalate (by simpa using hl) (by simpa using h)
  have hslash : "/".toList = ['/'] := rfl
  rw [segments, String.toList_intercalate, hslash, hp, List.map_map]
  simp [Function.comp_def]

/-- An absolute path has nothing in front of its first slash. -/
lemma isAbsolute_iff (path : String) :
    isAbsolute path = true ↔ ∃ rest, rest ≠ [] ∧ segments path = "" :: rest := by
  unfold isAbsolute segments
  cases path.toList with
  | nil => simp [pieces]
  | cons c cs =>
    obtain ⟨first, rest, hp⟩ := List.exists_cons_of_ne_nil (pieces_ne_nil '/' cs)
    by_cases hc : c = '/'
    · simp [pieces, hc, pieces_ne_nil]
    · simp [pieces, hc, hp]

/-- The components of a path with these segments. -/
def componentsOf : List String → List Component
  | [] => []
  | first :: rest =>
    (if first = "" ∧ rest ≠ [] then [.root] else (component? true first).toList) ++
      rest.filterMap (component? false)

lemma components_eq (path : String) : components path = componentsOf (segments path) := by
  obtain ⟨first, rest, hs⟩ := List.exists_cons_of_ne_nil (segments_ne_nil path)
  have hroot : isAbsolute path = true ↔ first = "" ∧ rest ≠ [] := by
    rw [isAbsolute_iff, hs]
    grind
  rw [components, hs, componentsOf]
  simp only [hroot]

lemma length_components_le (path : String) :
    (components path).length ≤ (segments path).length := by
  obtain ⟨first, rest, hs⟩ := List.exists_cons_of_ne_nil (segments_ne_nil path)
  have hrest := List.length_filterMap_le (component? false) rest
  have hone := Option.length_toList_le (o := component? true first)
  rw [components_eq, hs, componentsOf, List.length_append, List.length_cons]
  split
  · rw [List.length_singleton]
    omega
  · omega

lemma componentsOf_append {segs : List String} (hne : segs ≠ []) (hroot : segs ≠ [""])
    (more : List String) :
    componentsOf (segs ++ more) = componentsOf segs ++ more.filterMap (component? false) := by
  obtain ⟨first, rest, rfl⟩ := List.exists_cons_of_ne_nil hne
  have hiff : first = "" ∧ rest ++ more ≠ [] ↔ first = "" ∧ rest ≠ [] := by
    simp only [ne_eq, List.append_eq_nil_iff]
    grind
  rw [List.cons_append, componentsOf, componentsOf, List.filterMap_append, List.append_assoc]
  simp only [hiff]

lemma componentsOf_root {more : List String} (h : more ≠ []) :
    componentsOf ("" :: more) = .root :: more.filterMap (component? false) := by
  simp [componentsOf, h]

/-! ### Names -/

/-- A segment that names something. -/
structure IsName (s : String) : Prop where
  noSlash : '/' ∉ s.toList
  component (first : Bool) : component? first s = some (.name s)

lemma IsName.ne_empty {s : String} (h : IsName s) : s ≠ "" := by
  rintro rfl
  simpa [component?] using h.component true

lemma IsName.components {s : String} (h : IsName s) : components s = [.name s] := by
  rw [components_eq, segments_of_notMem h.noSlash, componentsOf]
  simp [h.component]

lemma isName_of_component? {first : Bool} {segment s : String} (hs : '/' ∉ segment.toList)
    (h : component? first segment = some (.name s)) : IsName s := by
  have heq : segment = s := by unfold component? at h; grind
  subst heq
  refine ⟨hs, fun _ => ?_⟩
  unfold component? at h ⊢
  grind

lemma isName_of_mem_components {path s : String} (h : Component.name s ∈ components path) :
    IsName s := by
  obtain ⟨first, rest, hs⟩ := List.exists_cons_of_ne_nil (segments_ne_nil path)
  rw [components_eq, hs, componentsOf, List.mem_append] at h
  rcases h with h | h
  · split at h
    · simp at h
    · exact isName_of_component? (notMem_of_mem_segments (hs ▸ List.mem_cons_self)) (by simpa using h)
  · obtain ⟨segment, hmem, h⟩ := List.mem_filterMap.mp h
    exact isName_of_component? (notMem_of_mem_segments (hs ▸ List.mem_cons_of_mem _ hmem)) h

lemma IsName.not_isAbsolute {s : String} (h : IsName s) : isAbsolute s = false := by
  rw [Bool.eq_false_iff, Ne, isAbsolute_iff, segments_of_notMem h.noSlash]
  simp

lemma components_empty : components "" = [] := rfl

lemma components_eq_nil_iff (path : String) : components path = [] ↔ path = "" := by
  refine ⟨fun h => ?_, fun h => h ▸ components_empty⟩
  obtain ⟨first, rest, hs⟩ := List.exists_cons_of_ne_nil (segments_ne_nil path)
  rw [components_eq, hs, componentsOf, List.append_eq_nil_iff] at h
  have hfirst : first = "" ∧ rest = [] := by
    unfold component? at h
    grind
  have htext := intercalate_pieces '/' path.toList
  have hpieces : (pieces '/' path.toList).map String.ofList = [""] := by
    rw [← hfirst.1, ← hfirst.2, ← hs]
    rfl
  obtain ⟨p, hp, hempty⟩ := List.map_eq_singleton_iff.mp hpieces
  rw [hp] at htext
  have hp : p = [] := by simpa using congrArg String.toList hempty
  rw [← String.toList_inj, ← htext, hp]
  rfl

/-! ### Joining -/

lemma segments_join {directory name : String} (hn : IsName name) (hd : directory ≠ "") :
    ∃ segs, segs ≠ [] ∧ segments (join directory name) = segs ++ [name] ∧
      (segments directory = segs ∨ segments directory = segs ++ [""]) := by
  have hjoin : join directory name = if directory.toList.getLast? = some '/' then directory ++ name
      else directory ++ "/" ++ name := by
    simp [join, hn.not_isAbsolute, hd]
  rw [hjoin]
  split
  · rename_i hlast
    obtain ⟨cs, hcs⟩ := List.getLast?_eq_some_iff.mp hlast
    have hdir : directory = String.ofList cs ++ "/" ++ "" := by
      rw [← String.toList_inj, hcs]
      simp
    refine ⟨segments (String.ofList cs), segments_ne_nil _, ?_, Or.inr ?_⟩
    · conv_lhs => rw [hdir]
      rw [String.append_empty, segments_slash, segments_of_notMem hn.noSlash]
    · conv_lhs => rw [hdir]
      rw [segments_slash]
      rfl
  · exact ⟨segments directory, segments_ne_nil _,
      by rw [segments_slash, segments_of_notMem hn.noSlash], Or.inl rfl⟩

theorem components_join (directory : String) {name : String} (hn : IsName name) :
    components (join directory name) = components directory ++ [.name name] := by
  by_cases hd : directory = ""
  · subst hd
    have hjoin : join "" name = name := by simp [join, hn.not_isAbsolute]
    rw [hjoin, hn.components]
    rfl
  obtain ⟨segs, hne, hjoin, hdir⟩ := segments_join hn hd
  have hname : [name].filterMap (component? false) = [.name name] := by simp [hn.component]
  have hempty : [""].filterMap (component? false) = [] := rfl
  rw [components_eq, components_eq, hjoin]
  by_cases hroot : segs = [""]
  · subst hroot
    rcases hdir with hdir | hdir
    · -- a path whose only segment is empty is empty
      exact absurd ((components_eq_nil_iff directory).mp (by rw [components_eq, hdir]; rfl)) hd
    · rw [hdir, List.singleton_append, List.singleton_append, componentsOf_root (by simp),
        componentsOf_root (by simp), hname, hempty]
      rfl
  · rw [componentsOf_append hne hroot, hname]
    rcases hdir with hdir | hdir
    · rw [hdir]
    · rw [hdir, componentsOf_append hne hroot, hempty, List.append_nil]

/-! ### Parents -/

/-- What is dropped counts for nothing, and what is left ends in a segment that counts, or is the
first segment alone. -/
lemma dropIdle_spec {back : List String} (h : back ≠ []) :
    ∃ idle, back = idle ++ dropIdle back ∧ idle.filterMap (component? false) = [] ∧
      ((∃ first, dropIdle back = [first]) ∨
        ∃ segment more c, dropIdle back = segment :: more ∧ more ≠ [] ∧
          component? false segment = some c) := by
  induction back with
  | nil => exact absurd rfl h
  | cons segment more ih =>
    cases more with
    | nil => exact ⟨[], rfl, rfl, .inl ⟨segment, rfl⟩⟩
    | cons next more =>
      obtain ⟨idle, hback, hidle, hend⟩ := ih (List.cons_ne_nil _ _)
      cases hc : component? false segment with
      | none =>
        have hdrop : dropIdle (segment :: next :: more) = dropIdle (next :: more) := by
          simp [dropIdle, hc]
        refine ⟨segment :: idle, ?_, by simpa [hc] using hidle, hdrop ▸ hend⟩
        rw [hdrop, List.cons_append, ← hback]
      | some c =>
        have hdrop : dropIdle (segment :: next :: more) = segment :: next :: more := by
          simp [dropIdle, hc]
        exact ⟨[], by simp [hdrop], rfl,
          .inr ⟨segment, next :: more, c, hdrop, List.cons_ne_nil _ _, hc⟩⟩

lemma components_ofReversed {back : List String} (hne : back ≠ []) (hroot : back ≠ [""])
    (h : ∀ s ∈ back, '/' ∉ s.toList) : components (ofReversed back) = componentsOf back.reverse := by
  rw [ofReversed, if_neg hroot, components_eq,
    segments_intercalate (by simpa using hne) (by simpa using h)]

/-- The text of segments, less those at the end that count for nothing. -/
lemma components_ofReversed_dropIdle {front : List String} (hne : front ≠ [])
    (h : ∀ s ∈ front, '/' ∉ s.toList) :
    components (ofReversed (dropIdle front.reverse)) =
      if front = [""] then [.root] else componentsOf front := by
  obtain ⟨idle, hback, hidle, hend⟩ := dropIdle_spec (List.reverse_ne_nil_iff.mpr hne)
  have hleft : dropIdle front.reverse ≠ [] := by
    rcases hend with ⟨first, hd⟩ | ⟨segment, more, c, hd, -⟩ <;> simp [hd]
  have hfront : front = (dropIdle front.reverse).reverse ++ idle.reverse := by
    rw [← List.reverse_append, ← hback, List.reverse_reverse]
  generalize dropIdle front.reverse = left at *
  have hidle : idle.reverse.filterMap (component? false) = [] := by
    simpa [List.filterMap_reverse] using hidle
  by_cases hroot : left = [""]
  · subst hroot
    have htext : components (ofReversed [""]) = [.root] := rfl
    rw [htext]
    split
    · rfl
    · rename_i hf
      rw [hfront] at hf ⊢
      rw [List.reverse_singleton, List.singleton_append, componentsOf_root (by simpa using hf),
        hidle]
  · have hslash : ∀ s ∈ left, '/' ∉ s.toList := fun s hs => h s (by rw [hfront]; simp [hs])
    have hf : front ≠ [""] := by
      rw [hfront]
      intro hone
      rcases List.append_eq_singleton_iff.mp hone with ⟨hnil, -⟩ | ⟨hone, -⟩
      · exact hleft (by simpa using hnil)
      · exact hroot (by simpa using congrArg List.reverse hone)
    rw [components_ofReversed hleft hroot hslash, if_neg hf]
    conv_rhs => rw [hfront]
    rw [componentsOf_append (by simpa using hleft) (by simpa using hroot), hidle, List.append_nil]

theorem components_parent {path parent : String} (h : parent? path = some parent) :
    components parent = (components path).dropLast := by
  have hparent : parent = ofReversed (dropIdle ((dropIdle (segments path).reverse).drop 1)) := by
    unfold parent? at h
    split at h <;> simp_all
  obtain ⟨idle, hback, hidle, hend⟩ :=
    dropIdle_spec (List.reverse_ne_nil_iff.mpr (segments_ne_nil path))
  have hsegs : segments path = (dropIdle (segments path).reverse).reverse ++ idle.reverse := by
    rw [← List.reverse_append, ← hback, List.reverse_reverse]
  have hidle : idle.reverse.filterMap (component? false) = [] := by
    simpa [List.filterMap_reverse] using hidle
  rw [components_eq path]
  rcases hend with ⟨first, hleft⟩ | ⟨segment, more, c, hleft, hmore, hc⟩
  · -- only the first segment counts
    rw [hleft] at hparent hsegs
    have hempty : components parent = [] := by rw [hparent]; rfl
    rw [hempty, hsegs, List.reverse_singleton, List.singleton_append, componentsOf, hidle,
      List.append_nil]
    split
    · rfl
    · cases component? true first <;> rfl
  · rw [hleft] at hparent hsegs
    have hslash : ∀ s ∈ more.reverse, '/' ∉ s.toList := fun s hs =>
      notMem_of_mem_segments (show s ∈ segments path by
        rw [hsegs]
        simp [List.mem_reverse.mp hs])
    have hc : [segment].filterMap (component? false) = [c] := by simp [hc]
    have hfront := components_ofReversed_dropIdle (List.reverse_ne_nil_iff.mpr hmore) hslash
    rw [hparent, List.drop_one, List.tail_cons, ← List.reverse_reverse more, hfront, hsegs,
      List.reverse_cons, List.append_assoc]
    split
    · rename_i hroot
      rw [hroot, List.singleton_append, componentsOf_root (by simp), List.filterMap_append, hc,
        hidle]
      rfl
    · rename_i hroot
      rw [componentsOf_append (List.reverse_ne_nil_iff.mpr hmore) hroot, List.filterMap_append, hc,
        hidle, List.append_nil, List.dropLast_concat]

lemma exists_parent {path s : String} (h : (components path).getLast? = some (.name s)) :
    ∃ parent, parent? path = some parent := by
  simp [parent?, h]

/-! ### Outputs -/

theorem components_withFileName (path : String) {name : String} (hn : IsName name) :
    components (withFileName path name) =
      (match fileName? path with
        | some _ => (components path).dropLast
        | none => components path) ++ [.name name] := by
  unfold withFileName
  cases hf : fileName? path with
  | none => exact components_join path hn
  | some s =>
    have hlast : (components path).getLast? = some (.name s) := by
      unfold fileName? at hf
      split at hf <;> simp_all
    obtain ⟨parent, hparent⟩ := exists_parent hlast
    simp only [hparent, Option.getD_some]
    rw [components_join parent hn, components_parent hparent]

end PublicPath.Proofs
