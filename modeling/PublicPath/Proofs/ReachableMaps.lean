import PublicPath.Proofs.LoadedMaps
import PublicPath.Proofs.OrderedValues

/-!
# Reachable maps

A runtime map is loaded, and endpoints are inserted into it. In every map that is reached in this way
no entry and no environment stands twice, and the further members of an endpoint are in the order of
their names, with no `href` among them.
-/

namespace PublicPath.Proofs
open Json

/-- The further members of an endpoint are in order, and its `href` is none of them. -/
structure IsSound (e : Endpoint) : Prop where
  extra : ordered (.object e.extra) = .object e.extra
  href : "href" ∉ e.extra.map (·.1)

/-- Different names, and under each of them what has a property. -/
structure Named {α : Type} (P : α → Prop) (xs : List (String × α)) : Prop where
  nodup : (xs.map (·.1)).Nodup
  values : ∀ x ∈ xs, P x.2

def SoundMap (m : RuntimeMap) : Prop := Named (Named IsSound) m.entries

/-- An endpoint that is put together from an `href`, or without one and without a further member of
that name. -/
inductive IsMade : Endpoint → Prop
  | new (href : String) : IsMade ⟨some href, []⟩
  | without {extra : List (String × Json)} (h : ordered (.object extra) = .object extra)
      (hhref : "href" ∉ extra.map (·.1)) : IsMade ⟨none, extra⟩

/-- The maps that are loaded from a value or a text, with endpoints inserted afterwards. -/
inductive IsReachable : RuntimeMap → Prop
  | value {v : Json} {m : RuntimeMap} (hv : ordered v = v) (h : RuntimeMap.ofJson? v = some m) :
      IsReachable m
  | text {source : String} {m : RuntimeMap} (h : RuntimeMap.parse source = .ok m) : IsReachable m
  | insert {m : RuntimeMap} {e : Endpoint} (hm : IsReachable m) (entry environment : String)
      (he : IsMade e) : IsReachable (m.insert entry environment e)

/-! ### Members by name -/

section

variable {α β : Type} {P : α → Prop} {xs : List (String × α)} {ys : List (String × β)}

lemma Named.nil (P : α → Prop) : Named P [] := ⟨List.nodup_nil, by simp⟩

lemma Named.lookup (h : Named P xs) {name : String} {x : α} (hx : xs.lookup name = some x) : P x :=
  h.values _ (mem_of_lookup hx)

lemma mem_insertLast {key : String} {value : α} {x : String × α}
    (h : x ∈ insertLast key value xs) : x = (key, value) ∨ x ∈ xs := by
  induction xs with
  | nil => exact .inl (List.mem_singleton.mp h)
  | cons y xs ih =>
    rw [insertLast] at h
    split at h
    · rcases List.mem_cons.mp h with h | h
      · exact .inl h
      · exact .inr (List.mem_cons_of_mem _ h)
    · rcases List.mem_cons.mp h with rfl | h
      · exact .inr List.mem_cons_self
      · exact (ih h).imp_right (List.mem_cons_of_mem _)

lemma Named.insertLast (h : Named P xs) (key : String) {value : α} (hvalue : P value) :
    Named P (insertLast key value xs) := by
  constructor
  · rw [map_fst_insertLast]
    split_ifs with hkey
    · exact h.nodup
    · exact h.nodup.append (List.nodup_singleton key) (by simpa using hkey)
  · intro x hx
    rcases mem_insertLast hx with rfl | hx
    · exact hvalue
    · exact h.values x hx

lemma Named.foldl_insertLast {members : List (String × α)} (h : ∀ m ∈ members, P m.2)
    (hxs : Named P xs) :
    Named P (members.foldl (fun xs m => PublicPath.insertLast m.1 m.2 xs) xs) := by
  induction members generalizing xs with
  | nil => exact hxs
  | cons m members ih =>
    rw [List.foldl_cons]
    exact ih (fun n hn => h n (List.mem_cons_of_mem _ hn))
      (hxs.insertLast m.1 (h m List.mem_cons_self))

lemma Named.collect {members : List (String × α)} (h : ∀ m ∈ members, P m.2) :
    Named P (collect members) :=
  Named.foldl_insertLast h (Named.nil P)

/-- Reading the value of every member keeps the names and their order. -/
lemma mapMembers?_eq_some_iff {f : α → Option β} :
    mapMembers? f xs = some ys ↔ Matching (fun _ x y => f x = some y) xs ys := by
  constructor
  · intro h
    induction xs generalizing ys with
    | nil =>
      cases h
      exact .nil
    | cons x xs ih =>
      rw [mapMembers?] at h
      split at h
      · rename_i y more hy hmore
        cases h
        exact .cons ⟨rfl, hy⟩ (ih hmore)
      · cases h
  · intro h
    induction h with
    | nil => rfl
    | cons hhead _ ih => rw [mapMembers?, hhead.2, ih, hhead.1]

lemma Matching.exists_of_mem {R : String → α → β → Prop} (h : Matching R xs ys) {y : String × β}
    (hy : y ∈ ys) : ∃ x ∈ xs, R x.1 x.2 y.2 := by
  induction h with
  | nil => cases hy
  | @cons x y _ _ hhead _ ih =>
    rcases List.mem_cons.mp hy with rfl | hy
    · exact ⟨x, List.mem_cons_self, hhead.2⟩
    · obtain ⟨x, hx, hR⟩ := ih hy
      exact ⟨x, List.mem_cons_of_mem _ hx, hR⟩

lemma Named.of_mapMembers? {f : β → Option α} (hnames : (ys.map (·.1)).Nodup)
    (h : mapMembers? f ys = some xs) (hf : ∀ y ∈ ys, ∀ x, f y.2 = some x → P x) : Named P xs := by
  have hmatch := mapMembers?_eq_some_iff.mp h
  refine ⟨hmatch.names ▸ hnames, fun x hx => ?_⟩
  obtain ⟨y, hy, hfy⟩ := hmatch.exists_of_mem hx
  exact hf y hy x.2 hfy

end

/-! ### Loading -/

section

variable {v : Json} {e : Endpoint} {environments : List (String × Endpoint)} {m : RuntimeMap}
  {cs rest : List Char}

lemma isSound_of_ofJson? (hv : ordered v = v) (h : Endpoint.ofJson? v = some e) : IsSound e := by
  cases v with
  | object members =>
    obtain ⟨hnames, hvalues⟩ := ordered_object_iff.mp hv
    have hextra : e.extra = members.filter (·.1 ≠ "href") := by
      rw [Endpoint.ofJson?, Endpoint.ofMembers?] at h
      split at h <;> cases h <;> rfl
    refine ⟨ordered_object_iff.mpr ⟨?_, ?_⟩, ?_⟩
    · rw [hextra]
      exact hnames.sublist (List.filter_sublist.map _)
    · intro x hx
      rw [hextra] at hx
      exact hvalues x (List.mem_of_mem_filter hx)
    · rw [hextra]
      simp
  | _ => cases h

lemma named_of_environmentsOfJson? (hv : ordered v = v)
    (h : environmentsOfJson? v = some environments) : Named IsSound environments := by
  cases v with
  | object members =>
    obtain ⟨hnames, hvalues⟩ := ordered_object_iff.mp hv
    exact .of_mapMembers? (hnames.imp ne_of_lt) h fun y hy x => isSound_of_ofJson? (hvalues y hy)
  | _ => cases h

lemma soundMap_of_ofJson? (hv : ordered v = v) (h : RuntimeMap.ofJson? v = some m) :
    SoundMap m := by
  cases v with
  | object members =>
    obtain ⟨hnames, hvalues⟩ := ordered_object_iff.mp hv
    obtain ⟨entries, hentries, rfl⟩ := Option.map_eq_some_iff.mp h
    exact .of_mapMembers? (hnames.imp ne_of_lt) hentries
      fun y hy x => named_of_environmentsOfJson? (hvalues y hy)
  | _ => cases h

lemma readTyped_forall {α : Type} {P : α → Prop} {once : Option String}
    {value : String → List Char → Reading α} {members : List (String × α)}
    (hvalue : ∀ {name cs x rest}, value name cs = .ok (x, rest) → P x)
    (h : readTyped once value cs = .ok (members, rest)) : ∀ m ∈ members, P m.2 := by
  obtain ⟨left, -, hobject⟩ := readTyped_eq_ok_iff.mp h
  exact readObject_forall hvalue hobject

/-- An endpoint that is read from a text is the endpoint of a value in order. -/
lemma isSound_of_readEndpoint (h : readEndpoint cs = .ok (e, rest)) : IsSound e := by
  obtain ⟨v, hv, hof⟩ := readEndpoint_readsAs h
  exact isSound_of_ofJson? (ordered_of_readValue hv) hof

lemma named_of_readEnvironments (h : readEnvironments cs = .ok (environments, rest)) :
    Named IsSound environments := by
  obtain ⟨⟨members, left⟩, hmembers, heq⟩ := map_eq_ok_iff.mp h
  cases heq
  exact .collect (readTyped_forall isSound_of_readEndpoint hmembers)

lemma soundMap_of_parse {source : String} (h : RuntimeMap.parse source = .ok m) : SoundMap m := by
  obtain ⟨rest, hread, -⟩ := readWhole?_eq_ok_iff.mp h
  obtain ⟨⟨members, left⟩, hmembers, heq⟩ := map_eq_ok_iff.mp hread
  cases heq
  exact Named.collect (readTyped_forall named_of_readEnvironments hmembers)

/-! ### Inserting -/

lemma IsMade.isSound (h : IsMade e) : IsSound e := by
  cases h with
  | new href => exact ⟨rfl, by simp⟩
  | without hextra hhref => exact ⟨hextra, hhref⟩

lemma SoundMap.insert (h : SoundMap m) (entry environment : String) (he : IsSound e) :
    SoundMap (m.insert entry environment e) := by
  refine Named.insertLast h entry (Named.insertLast ?_ environment he)
  cases henvironments : m.environments? entry with
  | none => exact .nil IsSound
  | some environments => exact h.lookup henvironments

theorem IsReachable.soundMap (h : IsReachable m) : SoundMap m := by
  induction h with
  | value hv h => exact soundMap_of_ofJson? hv h
  | text h => exact soundMap_of_parse h
  | insert _ entry environment he ih => exact ih.insert entry environment he.isSound

end

end PublicPath.Proofs
