import PublicPath.Json.Equality
import PublicPath.Proofs.ReachableMaps

/-!
# Serialised maps

The `href` of an endpoint and its further members share one object. They are told apart again by
the name, so that a map is read back from its value, whether the value keeps the order of the map or
that of the names. What the value of a loaded map does not have are the null `href` members.
-/

namespace PublicPath.Proofs
open Json

/-- An object without a null `href`. -/
def withoutNullHref : Json → Json
  | .object members => .object (members.filter fun m => ¬ (m.1 = "href" ∧ m.2 = .null))
  | v => v

/-- An object with every value changed. -/
def mapValues (f : Json → Json) : Json → Json
  | .object members => .object (members.map fun m => (m.1, f m.2))
  | v => v

/-- The value of a map without the null `href` members of its endpoints. -/
def withoutNullHrefs (v : Json) : Json := mapValues (mapValues withoutNullHref) v

/-! ### Endpoints -/

section

variable {v : Json} {e : Endpoint} {members : List (String × Json)}

lemma filter_ne_href (h : "href" ∉ members.map (·.1)) : members.filter (·.1 ≠ "href") = members := by
  rw [List.filter_eq_self]
  rintro m hm
  simp only [ne_eq, decide_not, Bool.not_eq_true', decide_eq_false_iff_not]
  rintro hname
  exact h (hname ▸ List.mem_map_of_mem hm)

lemma filter_cons_href (href : String) (h : "href" ∉ members.map (·.1)) :
    (("href", Json.string href) :: members).filter (·.1 ≠ "href") = members := by
  rw [List.filter_cons_of_neg (by simp), filter_ne_href h]

lemma ofMembers?_of_lookup {href : String} (h : members.lookup "href" = some (.string href)) :
    Endpoint.ofMembers? members = some ⟨some href, members.filter (·.1 ≠ "href")⟩ := by
  rw [Endpoint.ofMembers?, h]

lemma ofMembers?_of_notMem (h : "href" ∉ members.map (·.1)) :
    Endpoint.ofMembers? members = some ⟨none, members⟩ := by
  rw [Endpoint.ofMembers?, lookup_eq_none_iff_notMem.mpr h, filter_ne_href h]

lemma ofJson?_toJson_endpoint (h : "href" ∉ e.extra.map (·.1)) :
    Endpoint.ofJson? e.toJson = some e := by
  obtain ⟨href, extra⟩ := e
  cases href with
  | none => exact ofMembers?_of_notMem h
  | some href =>
    rw [Endpoint.toJson, Endpoint.ofJson?, ofMembers?_of_lookup List.lookup_cons_self,
      filter_cons_href href h]

/-- The value of an endpoint with its members in the order of their names. -/
lemma ordered_toJson_some {href : String} {extra : List (String × Json)}
    (h : ordered (.object extra) = .object extra) :
    ordered (Endpoint.toJson ⟨some href, extra⟩) = ofMembers (("href", .string href) :: extra) := by
  have hhref : ordered (.string href) = .string href := rfl
  rw [Endpoint.toJson, ordered, orderedMembers, hhref,
    orderedMembers_of_forall (ordered_object_iff.mp h).2]

lemma lookup_sortMembers_href (href : String) (h : "href" ∉ members.map (·.1)) :
    (sortMembers (("href", Json.string href) :: members)).lookup "href" = some (.string href) := by
  have hnone : members.reverse.lookup "href" = none := by
    rw [lookup_eq_none_iff_notMem, List.map_reverse, List.mem_reverse]
    exact h
  rw [lookup_sortMembers, List.reverse_cons, List.lookup_append, hnone, Option.none_or,
    List.lookup_cons_self]

lemma ofJson?_ordered_endpoint (h : IsSound e) : Endpoint.ofJson? (ordered e.toJson) = some e := by
  obtain ⟨href, extra⟩ := e
  cases href with
  | none =>
    have hsame : ordered (Endpoint.toJson ⟨none, extra⟩) = Endpoint.toJson ⟨none, extra⟩ := h.extra
    rw [hsame, ofJson?_toJson_endpoint h.href]
  | some href =>
    have hfilter := filter_sortMembers (fun name => decide (name ≠ "href"))
      (("href", Json.string href) :: extra)
    rw [ordered_toJson_some h.extra, ofMembers, Endpoint.ofJson?,
      ofMembers?_of_lookup (lookup_sortMembers_href href h.href), hfilter,
      filter_cons_href href h.href, sortMembers_of_pairwise (pairwise_of_ordered h.extra)]

lemma withoutNullHref_of_ne (h : members.lookup "href" ≠ some .null)
    (hnames : (members.map (·.1)).Pairwise (· < ·)) :
    withoutNullHref (.object members) = .object members := by
  refine congrArg Json.object (List.filter_eq_self.mpr fun m hm => ?_)
  rw [decide_eq_true_eq]
  rintro ⟨hname, hnull⟩
  apply h
  rw [← hname, ← hnull]
  exact lookup_of_mem hnames hm

lemma withoutNullHref_of_null (h : members.lookup "href" = some .null)
    (hnames : (members.map (·.1)).Pairwise (· < ·)) :
    withoutNullHref (.object members) = .object (members.filter (·.1 ≠ "href")) := by
  refine congrArg Json.object (List.filter_congr fun m hm => ?_)
  have hnull : m.1 = "href" → m.2 = .null := by
    intro hname
    have hm := lookup_of_mem hnames hm
    rw [hname, h] at hm
    exact (Option.some.inj hm).symm
  rw [decide_eq_decide]
  tauto

/-- A member that is put in front of the others comes back to its place. -/
lemma sortMembers_href {href : String} (h : members.lookup "href" = some (.string href))
    (hnames : (members.map (·.1)).Pairwise (· < ·)) :
    sortMembers (("href", .string href) :: members.filter (·.1 ≠ "href")) = members := by
  have hrest : ((members.filter (·.1 ≠ "href")).map (·.1)).Nodup :=
    (hnames.imp ne_of_lt).sublist (List.filter_sublist.map _)
  have hfront : ((("href", Json.string href) :: members.filter (·.1 ≠ "href")).map (·.1)).Nodup :=
    List.nodup_cons.mpr ⟨by simp, hrest⟩
  have hlookup := lookup_filter (fun name => decide (name ≠ "href")) members
  refine eq_of_lookup_eq (pairwise_sortMembers _) hnames fun name => ?_
  rw [lookup_sortMembers, lookup_reverse hfront, lookup_cons_eq_ite, hlookup]
  by_cases hname : name = "href" <;> simp [hname, h]

/-- The value of an endpoint is the one that it was loaded from, up to a null `href`. -/
lemma ordered_toJson_of_ofJson? (hv : ordered v = v) (h : Endpoint.ofJson? v = some e) :
    ordered e.toJson = withoutNullHref v := by
  have hextra := (isSound_of_ofJson? hv h).extra
  cases v with
  | object members =>
    have hnames := pairwise_of_ordered hv
    rw [Endpoint.ofJson?, Endpoint.ofMembers?] at h
    split at h
    · rename_i hlookup
      cases h
      rw [withoutNullHref_of_ne (by simp [hlookup]) hnames, Endpoint.toJson, hextra,
        filter_ne_href (lookup_eq_none_iff_notMem.mp hlookup)]
    · rename_i hlookup
      cases h
      rw [withoutNullHref_of_null hlookup hnames, Endpoint.toJson, hextra]
    · rename_i href hlookup
      cases h
      rw [withoutNullHref_of_ne (by simp [hlookup]) hnames, ordered_toJson_some hextra, ofMembers,
        sortMembers_href hlookup hnames]
    · cases h
  | _ => cases h

end

/-! ### Maps -/

section

variable {v : Json} {m : RuntimeMap} {environments : List (String × Endpoint)}

/-- The value of the environments of an entry. -/
def environmentsToJson (environments : List (String × Endpoint)) : Json :=
  .object (environments.map fun x => (x.1, x.2.toJson))

lemma toJson_eq (m : RuntimeMap) :
    m.toJson = .object (m.entries.map fun x => (x.1, environmentsToJson x.2)) := rfl

lemma ordered_object_map {α : Type} (g : α → Json) (xs : List (String × α)) :
    ordered (.object (xs.map fun x => (x.1, g x.2))) =
      ofMembers (xs.map fun x => (x.1, ordered (g x.2))) := by
  rw [ordered, orderedMembers_eq_map, List.map_map]
  rfl

lemma matching_map {α β : Type} {R : String → β → α → Prop} {g : α → β} {xs : List (String × α)}
    (h : ∀ x ∈ xs, R x.1 (g x.2) x.2) : Matching R (xs.map fun x => (x.1, g x.2)) xs := by
  rw [Matching, List.forall₂_map_left_iff, List.forall₂_same]
  exact fun x hx => ⟨rfl, h x hx⟩

/-- A map is read back from a value in its own order. -/
lemma ofJson?_toJson (h : SoundMap m) : RuntimeMap.ofJson? m.toJson = some m := by
  have henvironments : ∀ x ∈ m.entries, environmentsOfJson? (environmentsToJson x.2) = some x.2 :=
    fun x hx => mapMembers?_eq_some_iff.mpr
      (matching_map fun y hy => ofJson?_toJson_endpoint ((h.values x hx).values y hy).href)
  rw [toJson_eq, RuntimeMap.ofJson?, mapMembers?_eq_some_iff.mpr (matching_map henvironments)]
  rfl

/-- Named members are found again behind a reading of their values in the order of the names. -/
lemma exists_mapMembers?_ofMembers {α : Type} {P : α → Prop} {S : α → α → Prop} {f : Json → Option α}
    {g : α → Json} {xs : List (String × α)} (h : Named P xs)
    (hg : ∀ x, P x → ∃ y, f (g x) = some y ∧ S y x) :
    ∃ ys, mapMembers? f (sortMembers (xs.map fun x => (x.1, g x.2))) = some ys ∧
      ∀ name, Option.Rel S (ys.lookup name) (xs.lookup name) := by
  have hmatch : Matching (fun _ x v => ∃ y, f v = some y ∧ S y x) xs
      (xs.map fun x => (x.1, g x.2)) := by
    rw [Matching, List.forall₂_map_right_iff, List.forall₂_same]
    exact fun x hx => ⟨rfl, hg x.2 (h.values x hx)⟩
  obtain ⟨ys, hys, hlookup⟩ := mapMembers?_sortMembers hmatch
  refine ⟨ys, hys, fun name => ?_⟩
  have hname := hlookup name
  rwa [lookup_collect, lookup_reverse h.nodup] at hname

lemma environmentsOf_ordered (h : Named IsSound environments) :
    EnvironmentsOf environments (ordered (environmentsToJson environments)) := by
  obtain ⟨ys, hys, hlookup⟩ := exists_mapMembers?_ofMembers (S := Eq) h
    fun e he => ⟨e, ofJson?_ordered_endpoint he, rfl⟩
  rw [environmentsToJson, ordered_object_map]
  exact ⟨ys, hys, fun name => eq_of_optionRel (hlookup name)⟩

/-- A map is read back from its value in the order of the names, as far as maps tell. -/
lemma exists_ofJson?_ordered (h : SoundMap m) :
    ∃ again, RuntimeMap.ofJson? (ordered m.toJson) = some again ∧ AnswersAlike again m := by
  obtain ⟨ys, hys, hlookup⟩ := exists_mapMembers?_ofMembers h
    fun environments henvironments => environmentsOf_ordered henvironments
  rw [toJson_eq, ordered_object_map]
  exact ⟨⟨ys⟩, by rw [ofMembers, RuntimeMap.ofJson?, hys]; rfl, hlookup⟩

/-- Values that are read from members in order and written again, each as it was or changed. -/
lemma ordered_map_of_mapMembers? {α : Type} {f : Json → Option α} {g : α → Json} {k : Json → Json}
    {members : List (String × Json)} {xs : List (String × α)}
    (hv : ordered (.object members) = .object members) (h : mapMembers? f members = some xs)
    (hg : ∀ v x, ordered v = v → f v = some x → ordered (g x) = k v) :
    ordered (.object (xs.map fun x => (x.1, g x.2))) = mapValues k (.object members) := by
  obtain ⟨hnames, hvalues⟩ := ordered_object_iff.mp hv
  have hsame : xs.map (fun x => (x.1, ordered (g x.2))) = members.map fun m => (m.1, k m.2) := by
    have hmatch := mapMembers?_eq_some_iff.mp h
    clear hv h hnames
    induction hmatch with
    | nil => rfl
    | cons hhead _ ih =>
      rw [List.map_cons, List.map_cons, ih fun m hm => hvalues m (List.mem_cons_of_mem _ hm),
        hhead.1, hg _ _ (hvalues _ List.mem_cons_self) hhead.2]
  have hsorted : ((members.map fun m => (m.1, k m.2)).map (·.1)).Pairwise (· < ·) := by
    rw [List.map_map]
    exact hnames
  rw [ordered_object_map, hsame, ofMembers, sortMembers_of_pairwise hsorted, mapValues]

lemma ordered_environmentsToJson (hv : ordered v = v)
    (h : environmentsOfJson? v = some environments) :
    ordered (environmentsToJson environments) = mapValues withoutNullHref v := by
  cases v with
  | object members =>
    exact ordered_map_of_mapMembers? hv h fun v e hv he => ordered_toJson_of_ofJson? hv he
  | _ => cases h

lemma ordered_toJson (hv : ordered v = v) (h : RuntimeMap.ofJson? v = some m) :
    ordered m.toJson = withoutNullHrefs v := by
  cases v with
  | object members =>
    obtain ⟨entries, hentries, rfl⟩ := Option.map_eq_some_iff.mp h
    exact ordered_map_of_mapMembers? hv hentries
      fun v environments hv henvironments => ordered_environmentsToJson hv henvironments
  | _ => cases h

end

end PublicPath.Proofs
