import PublicPath.Endpoint.Reader
import PublicPath.Proofs.SchemaViolations

/-!
# Members by name

Of several members with one name the last one counts, whether members stand in the order of their
names or in that of their first places. Members in the order of their names are no more than what is
found under each name.
-/

namespace PublicPath.Proofs
open Json

section

variable {α : Type} {members xs ys : List (String × α)} {name : String}

/-! ### Looking up -/

lemma lookup_insertMember (key other : String) (value : α) (members : List (String × α)) :
    (insertMember key value members).lookup other =
      if other = key then some value else members.lookup other := by
  induction members with
  | nil => rw [insertMember, lookup_cons_eq_ite]
  | cons m members ih =>
    obtain ⟨name, old⟩ := m
    rw [insertMember]
    by_cases hlt : key < name
    · rw [if_pos hlt, lookup_cons_eq_ite]
    rw [if_neg hlt]
    by_cases heq : key = name
    · rw [if_pos heq, lookup_cons_eq_ite, lookup_cons_eq_ite]
      by_cases ho : other = key <;> simp [ho, ← heq]
    · rw [if_neg heq, lookup_cons_eq_ite, lookup_cons_eq_ite, ih]
      by_cases ho : other = name <;> simp [ho, Ne.symm heq]

/-- Where putting a member in changes what is found under its own name only, the last member of a
name is found in the end. -/
lemma lookup_foldl {put : String → α → List (String × α) → List (String × α)}
    (hput : ∀ key other value xs, (put key value xs).lookup other =
      if other = key then some value else xs.lookup other)
    (members start : List (String × α)) (name : String) :
    (members.foldl (fun xs m => put m.1 m.2 xs) start).lookup name =
      (members.reverse.lookup name).or (start.lookup name) := by
  induction members generalizing start with
  | nil => rfl
  | cons m members ih =>
    rw [List.foldl_cons, ih, hput, List.reverse_cons, List.lookup_append, lookup_cons_eq_ite,
      List.lookup_nil, Option.or_assoc]
    by_cases hm : name = m.1 <;> simp [hm]

lemma lookup_sortMembers (members : List (String × α)) (name : String) :
    (sortMembers members).lookup name = members.reverse.lookup name := by
  have h := lookup_foldl lookup_insertMember members [] name
  rwa [List.lookup_nil, Option.or_none] at h

lemma lookup_collect (members : List (String × α)) (name : String) :
    (collect members).lookup name = members.reverse.lookup name := by
  have h := lookup_foldl lookup_insertLast members [] name
  rwa [List.lookup_nil, Option.or_none] at h

/-- Where no name stands twice, the order makes no difference. -/
lemma lookup_reverse (h : (members.map (·.1)).Nodup) (name : String) :
    members.reverse.lookup name = members.lookup name := by
  induction members with
  | nil => rfl
  | cons m members ih =>
    obtain ⟨key, x⟩ := m
    obtain ⟨hkey, hmembers⟩ := List.nodup_cons.mp h
    rw [List.reverse_cons, List.lookup_append, ih hmembers, lookup_cons_eq_ite, lookup_cons_eq_ite,
      List.lookup_nil]
    by_cases hname : name = key
    · rw [hname, lookup_eq_none_iff_notMem.mpr hkey]
      rfl
    · rw [if_neg hname, if_neg hname, Option.or_none]

lemma mem_of_lookup {x : α} (h : members.lookup name = some x) :
    (name, x) ∈ members := by
  obtain ⟨front, back, rfl, -⟩ := List.lookup_eq_some_iff.mp h
  simp

lemma lookup_filter (p : String → Bool) (members : List (String × α)) (name : String) :
    (members.filter fun m => p m.1).lookup name =
      if p name = true then members.lookup name else none := by
  induction members with
  | nil => simp
  | cons m members ih =>
    obtain ⟨other, x⟩ := m
    rw [List.filter_cons, lookup_cons_eq_ite]
    by_cases hp : p other = true
    · rw [if_pos hp, lookup_cons_eq_ite, ih]
      by_cases hname : name = other <;> simp [hname, hp]
    · rw [if_neg hp, ih]
      by_cases hname : name = other <;> simp [hname, hp]

/-! ### Members in the order of their names -/

lemma lookup_eq_none_of_lt (h : ∀ key ∈ members.map (·.1), name < key) :
    members.lookup name = none :=
  lookup_eq_none_iff_notMem.mpr fun hmem => lt_irrefl name (h name hmem)

/-- Members in the order of their names are equal where the same is found under every name. -/
lemma eq_of_lookup_eq (hxs : (xs.map (·.1)).Pairwise (· < ·))
    (hys : (ys.map (·.1)).Pairwise (· < ·)) (h : ∀ name, xs.lookup name = ys.lookup name) :
    xs = ys := by
  induction xs generalizing ys with
  | nil =>
    cases ys with
    | nil => rfl
    | cons y ys =>
      have hy := h y.1
      simp [lookup_cons_eq_ite y.1 y.1] at hy
  | cons x xs ih =>
    obtain ⟨a, v⟩ := x
    obtain ⟨ha, hxs'⟩ := List.pairwise_cons.mp hxs
    cases ys with
    | nil =>
      have hx := h a
      simp at hx
    | cons y ys =>
      obtain ⟨b, w⟩ := y
      obtain ⟨hb, hys'⟩ := List.pairwise_cons.mp hys
      simp only [lookup_cons_eq_ite] at h
      rcases lt_trichotomy a b with hlt | rfl | hlt
      · have hnone := lookup_eq_none_of_lt fun key hkey => hlt.trans (hb key hkey)
        have ha := h a
        simp [hlt.ne, hnone] at ha
      · have hv : v = w := by simpa using h a
        have htails : xs = ys := by
          refine ih hxs' hys' fun name => ?_
          by_cases hname : name = a
          · rw [hname, lookup_eq_none_of_lt ha, lookup_eq_none_of_lt hb]
          · simpa [hname] using h name
        rw [hv, htails]
      · have hnone := lookup_eq_none_of_lt fun key hkey => hlt.trans (ha key hkey)
        have hb := h b
        simp [hlt.ne, hnone] at hb

lemma sortMembers_of_pairwise (h : (members.map (·.1)).Pairwise (· < ·)) :
    sortMembers members = members := by
  refine eq_of_lookup_eq (pairwise_sortMembers _) h fun name => ?_
  rw [lookup_sortMembers, lookup_reverse (h.imp ne_of_lt)]

lemma filter_sortMembers (p : String → Bool) (members : List (String × α)) :
    (sortMembers members).filter (fun m => p m.1) = sortMembers (members.filter fun m => p m.1) := by
  refine eq_of_lookup_eq ?_ (pairwise_sortMembers _) fun name => ?_
  · have hsub : ((sortMembers members).filter fun m => p m.1).map (·.1) =
        ((sortMembers members).map (·.1)).filter p := by
      rw [List.filter_map]
      rfl
    rw [hsub]
    exact (pairwise_sortMembers members).filter p
  · rw [lookup_filter, lookup_sortMembers, lookup_sortMembers, ← List.filter_reverse,
      lookup_filter]

lemma lookup_of_mem {x : α} (h : (members.map (·.1)).Pairwise (· < ·))
    (hmem : (name, x) ∈ members) : members.lookup name = some x := by
  induction members with
  | nil => cases hmem
  | cons m members ih =>
    obtain ⟨key, y⟩ := m
    obtain ⟨hkey, h'⟩ := List.pairwise_cons.mp h
    rw [lookup_cons_eq_ite]
    rcases List.mem_cons.mp hmem with heq | hmem'
    · cases heq
      rw [if_pos rfl]
    · have hlt := hkey name (List.mem_map_of_mem hmem')
      rw [if_neg hlt.ne', ih h' hmem']

lemma mem_sortMembers {m : String × α} (h : m ∈ sortMembers members) : m ∈ members := by
  have hlookup := lookup_of_mem (pairwise_sortMembers members) h
  rw [lookup_sortMembers] at hlookup
  exact List.mem_reverse.mp (mem_of_lookup hlookup)

end

end PublicPath.Proofs
