import Mathlib.Data.List.Forall2
import Mathlib.Data.List.ReduceOption
import Mathlib.Data.String.Basic
import Mathlib.Tactic.Common
import PublicPath.Config.Schema

/-!
# Violations of a schema

What a value violates is told field by field along the schema, whose fields may have one name in
common, and then key by key along the value. A value violates nothing exactly if it fits the schema,
and the unknown keys of an object that was read are told in ascending order.
-/

namespace PublicPath.Proofs
open Json

/-- The names of an object's members; none for every other value. -/
def keysOf : Json → List String
  | .object members => members.map (·.1)
  | _ => []

def IsText (v : Json) : Prop := ∃ s, v = .string s

/-- An object with all that is required, with texts under the names of the schema, and with nothing
else. -/
structure Fits (s : Schema) (v : Json) : Prop where
  isObject : ∃ members, v = .object members
  required : ∀ f ∈ s, f.required = true → f.name ∈ keysOf v
  isText : ∀ f ∈ s, ∀ x, v.get? f.name = some x → IsText x
  listed : ∀ key ∈ keysOf v, ∃ f ∈ s, f.name = key

/-- What is told of a value for one field of the schema. -/
inductive FieldVerdict (v : Json) (f : SchemaField) : Option SchemaViolation → Prop
  | missing (hf : f.name ∉ keysOf v) (hr : f.required = true) :
      FieldVerdict v f (some (.missingField f.name))
  | optional (hf : f.name ∉ keysOf v) (hr : f.required = false) : FieldVerdict v f none
  | wrongType {x : Json} (hf : v.get? f.name = some x) (hx : ¬ IsText x) :
      FieldVerdict v f (some (.wrongType f.name "string" x.typeName))
  | text {x : Json} (hf : v.get? f.name = some x) (hx : IsText x) : FieldVerdict v f none

/-- What is told of one key of a value. -/
inductive KeyVerdict (s : Schema) (key : String) : Option SchemaViolation → Prop
  | unknown (h : ∀ f ∈ s, f.name ≠ key) : KeyVerdict s key (some (.unknownField key))
  | listed (h : ∃ f ∈ s, f.name = key) : KeyVerdict s key none

/-- What is told of a value: one verdict for each field in the order of the schema, then one for
each key in the order of the value. -/
inductive Report (s : Schema) (v : Json) : List SchemaViolation → Prop
  | notAnObject (h : ∀ members, v ≠ .object members) : Report s v [.notAnObject v.typeName]
  | object {members : List (String × Json)} {fields keys : List (Option SchemaViolation)}
      (h : v = .object members) (hfields : List.Forall₂ (FieldVerdict v) s fields)
      (hkeys : List.Forall₂ (KeyVerdict s) (keysOf v) keys) :
      Report s v (fields.reduceOption ++ keys.reduceOption)

def unknownKey? : SchemaViolation → Option String
  | .unknownField key => some key
  | _ => none

/-- The keys that are told to be unknown. -/
def unknownKeys (told : List SchemaViolation) : List String := told.filterMap unknownKey?

/-! ### Verdicts -/

/-- What a check along a list tells is what its verdicts tell. -/
lemma forall₂_verdict_iff {α β : Type} {verdict : α → Option β → Prop} {check : α → Option β}
    (h : ∀ a b, verdict a b ↔ check a = b) {as : List α} {bs : List (Option β)} :
    List.Forall₂ verdict as bs ↔ as.map check = bs := by
  obtain rfl : verdict = fun a b => check a = b := funext₂ fun a b => propext (h a b)
  rw [← List.forall₂_map_left_iff, List.forall₂_eq_eq_eq]

lemma lookup_eq_none_iff_notMem {α : Type} {members : List (String × α)} {name : String} :
    members.lookup name = none ↔ name ∉ members.map (·.1) := by
  rw [List.lookup_eq_none_iff]
  simp only [List.mem_map, not_exists, not_and, bne_iff_ne, ne_eq]
  exact forall₂_congr fun _ _ => ne_comm

section Fields

variable {members : List (String × Json)} {f : SchemaField}

lemma lookup_eq_none_iff {name : String} :
    members.lookup name = none ↔ name ∉ keysOf (.object members) :=
  lookup_eq_none_iff_notMem

lemma accepts_iff (t : FieldType) (x : Json) : t.accepts x = true ↔ IsText x := by
  cases t
  cases x <;> simp [FieldType.accepts, IsText]

lemma checkField_of_notMem (h : f.name ∉ keysOf (.object members)) :
    Schema.checkField members f =
      if f.required = true then some (.missingField f.name) else none := by
  rw [Schema.checkField, lookup_eq_none_iff.mpr h]

lemma checkField_of_get? {x : Json} (h : (Json.object members).get? f.name = some x) :
    Schema.checkField members f =
      if f.type.accepts x = true then none else some (.wrongType f.name "string" x.typeName) := by
  have hlookup : members.lookup f.name = some x := h
  rw [Schema.checkField, hlookup]
  rfl

lemma fieldVerdict_iff (f : SchemaField) (told : Option SchemaViolation) :
    FieldVerdict (.object members) f told ↔ Schema.checkField members f = told := by
  constructor
  · intro h
    cases h with
    | missing hf hr => rw [checkField_of_notMem hf, if_pos hr]
    | optional hf hr => rw [checkField_of_notMem hf, hr, if_neg (by decide)]
    | wrongType hf hx => rw [checkField_of_get? hf, if_neg (mt (accepts_iff _ _).mp hx)]
    | text hf hx => rw [checkField_of_get? hf, if_pos ((accepts_iff _ _).mpr hx)]
  · rintro rfl
    cases hf : members.lookup f.name with
    | none =>
      have habsent := lookup_eq_none_iff.mp hf
      rw [checkField_of_notMem habsent]
      split
      · exact .missing habsent ‹_›
      · exact .optional habsent (Bool.eq_false_iff.mpr ‹_›)
    | some x =>
      have hpresent : (Json.object members).get? f.name = some x := hf
      rw [checkField_of_get? hpresent]
      split
      · exact .text hpresent ((accepts_iff _ _).mp ‹_›)
      · exact .wrongType hpresent (mt (accepts_iff _ _).mpr ‹_›)

end Fields

section Keys

variable (s : Schema)

/-- The verdict of the schema's check on a key. -/
def checkKey (key : String) : Option SchemaViolation :=
  if s.any (·.name = key) then none else some (.unknownField key)

lemma keyVerdict_iff (key : String) (told : Option SchemaViolation) :
    KeyVerdict s key told ↔ checkKey s key = told := by
  have hlisted : s.any (·.name = key) = true ↔ ∃ f ∈ s, f.name = key := by
    simp [List.any_eq_true]
  unfold checkKey
  constructor
  · intro h
    cases h with
    | unknown h => rw [if_neg (by rw [hlisted]; simpa using h)]
    | listed h => rw [if_pos (hlisted.mpr h)]
  · rintro rfl
    split
    · exact .listed (hlisted.mp ‹_›)
    · refine .unknown fun f hf hkey => ?_
      exact ‹¬ _› (hlisted.mpr ⟨f, hf, hkey⟩)

lemma unknownFields_eq (members : List (String × Json)) :
    ((members.filter fun (name, _) => !s.any (·.name = name)).map fun (name, _) =>
      SchemaViolation.unknownField name) = (keysOf (.object members)).filterMap (checkKey s) := by
  rw [keysOf, List.filterMap_map]
  induction members with
  | nil => rfl
  | cons m members ih =>
    rw [List.filterMap_cons, ← ih]
    by_cases h : s.any (·.name = m.1) = true <;> simp [checkKey, h]

end Keys

/-! ### Whole values -/

lemma violations_object (s : Schema) (members : List (String × Json)) :
    s.violations (.object members) = s.filterMap (Schema.checkField members) ++
      (keysOf (.object members)).filterMap (checkKey s) := by
  rw [Schema.violations, unknownFields_eq]

lemma violations_of_ne (s : Schema) {v : Json} (h : ∀ members, v ≠ .object members) :
    s.violations v = [.notAnObject v.typeName] := by
  cases v with
  | object members => exact absurd rfl (h members)
  | _ => rfl

lemma filterMap_eq_reduceOption {α β : Type} (check : α → Option β) (as : List α) :
    as.filterMap check = (as.map check).reduceOption := by
  simp [List.reduceOption, List.filterMap_map]

/-- A check tells what the report says, and a value has no other report. -/
lemma violations_eq_iff (s : Schema) (v : Json) (told : List SchemaViolation) :
    s.violations v = told ↔ Report s v told := by
  constructor
  · rintro rfl
    by_cases h : ∃ members, v = .object members
    · obtain ⟨members, rfl⟩ := h
      rw [violations_object, filterMap_eq_reduceOption, filterMap_eq_reduceOption]
      exact .object rfl ((forall₂_verdict_iff fieldVerdict_iff).mpr rfl)
        ((forall₂_verdict_iff (keyVerdict_iff s)).mpr rfl)
    · rw [not_exists] at h
      rw [violations_of_ne s h]
      exact .notAnObject h
  · intro h
    cases h with
    | notAnObject h => exact violations_of_ne s h
    | object h hfields hkeys =>
      subst h
      rw [violations_object, filterMap_eq_reduceOption, filterMap_eq_reduceOption,
        (forall₂_verdict_iff fieldVerdict_iff).mp hfields,
        (forall₂_verdict_iff (keyVerdict_iff s)).mp hkeys]

lemma checkField_eq_none_iff (members : List (String × Json)) (f : SchemaField) :
    Schema.checkField members f = none ↔
      (f.required = true → f.name ∈ keysOf (.object members)) ∧
        ∀ x, (Json.object members).get? f.name = some x → IsText x := by
  rw [← fieldVerdict_iff]
  constructor
  · intro h
    cases h with
    | optional hf hr =>
      have habsent : (Json.object members).get? f.name = none := lookup_eq_none_iff.mpr hf
      simp [hr, habsent]
    | @text x hf hx =>
      have hkey : f.name ∈ keysOf (.object members) := by
        by_contra hk
        rw [← lookup_eq_none_iff] at hk
        cases hf.symm.trans hk
      refine ⟨fun _ => hkey, fun y hy => ?_⟩
      cases hf.symm.trans hy
      exact hx
  · rintro ⟨hrequired, htext⟩
    cases hf : members.lookup f.name with
    | none =>
      have habsent := lookup_eq_none_iff.mp hf
      exact .optional habsent (Bool.eq_false_iff.mpr (mt hrequired habsent))
    | some x => exact .text (v := .object members) hf (htext x hf)

lemma checkKey_eq_none_iff (s : Schema) (key : String) :
    checkKey s key = none ↔ ∃ f ∈ s, f.name = key := by
  rw [← keyVerdict_iff]
  exact ⟨fun h => by cases h; assumption, .listed⟩

lemma violations_eq_nil_iff (s : Schema) (v : Json) : s.violations v = [] ↔ Fits s v := by
  by_cases h : ∃ members, v = .object members
  · obtain ⟨members, rfl⟩ := h
    rw [violations_object, List.append_eq_nil_iff, List.filterMap_eq_nil_iff,
      List.filterMap_eq_nil_iff]
    simp only [checkField_eq_none_iff, checkKey_eq_none_iff]
    constructor
    · rintro ⟨hfields, hkeys⟩
      exact ⟨⟨members, rfl⟩, fun f hf => (hfields f hf).1, fun f hf => (hfields f hf).2, hkeys⟩
    · intro hfits
      exact ⟨fun f hf => ⟨hfits.required f hf, hfits.isText f hf⟩, hfits.listed⟩
  · have hne := not_exists.mp h
    simp only [violations_of_ne s hne, List.cons_ne_nil, false_iff]
    exact fun hfits => h hfits.isObject

/-! ### The order of keys -/

section Order

variable {α : Type}

lemma mem_insertMember {name key : String} {value : α} {members : List (String × α)}
    (h : key ∈ (insertMember name value members).map (·.1)) :
    key = name ∨ key ∈ members.map (·.1) := by
  induction members with
  | nil => simpa [insertMember] using h
  | cons m members ih =>
    rw [insertMember] at h
    split_ifs at h with hlt heq
    · simpa using h
    · simp only [List.map_cons, List.mem_cons] at h ⊢
      tauto
    · simp only [List.map_cons, List.mem_cons] at h ⊢
      rcases h with h | h
      · exact .inr (.inl h)
      · exact (ih h).imp_right .inr

lemma pairwise_insertMember (name : String) (value : α) {members : List (String × α)}
    (h : (members.map (·.1)).Pairwise (· < ·)) :
    ((insertMember name value members).map (·.1)).Pairwise (· < ·) := by
  induction members with
  | nil => simp [insertMember]
  | cons m members ih =>
    have hm := List.pairwise_cons.mp h
    rw [insertMember]
    split_ifs with hlt heq
    · refine List.pairwise_cons.mpr ⟨fun key hkey => ?_, h⟩
      rcases List.mem_cons.mp hkey with rfl | hkey
      · exact hlt
      · exact hlt.trans (hm.1 key hkey)
    · rw [heq]
      exact h
    · refine List.pairwise_cons.mpr ⟨fun key hkey => ?_, ih hm.2⟩
      rcases mem_insertMember hkey with rfl | hkey
      · exact lt_of_le_of_ne (not_lt.mp hlt) (Ne.symm heq)
      · exact hm.1 key hkey

lemma pairwise_foldl_insertMember (members : List (String × α)) {sorted : List (String × α)}
    (h : (sorted.map (·.1)).Pairwise (· < ·)) :
    ((members.foldl (fun sorted m => insertMember m.1 m.2 sorted) sorted).map (·.1)).Pairwise
      (· < ·) := by
  induction members generalizing sorted with
  | nil => exact h
  | cons m members ih => exact ih (pairwise_insertMember m.1 m.2 h)

/-- The members of an object that was read stand in ascending order. -/
theorem pairwise_sortMembers (members : List (String × α)) :
    ((sortMembers members).map (·.1)).Pairwise (· < ·) :=
  pairwise_foldl_insertMember members .nil

end Order

lemma unknownKeys_fields (s : Schema) (members : List (String × Json)) :
    unknownKeys (s.filterMap (Schema.checkField members)) = [] := by
  rw [unknownKeys, List.filterMap_eq_nil_iff]
  intro violation hv
  obtain ⟨f, -, hf⟩ := List.mem_filterMap.mp hv
  cases (fieldVerdict_iff f _).mpr hf <;> rfl

lemma unknownKeys_keys (s : Schema) (keys : List String) :
    unknownKeys (keys.filterMap (checkKey s)) = keys.filter fun key => !s.any (·.name = key) := by
  induction keys with
  | nil => rfl
  | cons key keys ih =>
    rw [unknownKeys] at ih ⊢
    by_cases h : s.any (·.name = key) = true
    · rw [List.filterMap_cons_none (by rw [checkKey, if_pos h]), ih,
        List.filter_cons_of_neg (by simp [h])]
    · rw [List.filterMap_cons_some (by rw [checkKey, if_neg h]),
        List.filterMap_cons_some (f := unknownKey?) rfl, ih, List.filter_cons_of_pos (by simp [h])]

lemma unknownKeys_violations (s : Schema) (members : List (String × Json)) :
    unknownKeys (s.violations (.object members)) =
      (keysOf (.object members)).filter fun key => !s.any (·.name = key) := by
  rw [violations_object, unknownKeys, List.filterMap_append]
  change unknownKeys _ ++ unknownKeys _ = _
  rw [unknownKeys_fields, unknownKeys_keys, List.nil_append]

/-- A check finds nothing exactly in the values that fit. Otherwise it tells exactly what there is
to tell: field by field, then key by key, and the unknown keys of an object that was read in
ascending order. -/
theorem violations_exact (s : Schema) :
    (∀ v, s.violations v = [] ↔ Fits s v) ∧
      (∀ v told, s.violations v = told ↔ Report s v told) ∧
      ∀ members, (unknownKeys (s.violations (.ofMembers members))).Pairwise (· < ·) := by
  refine ⟨violations_eq_nil_iff s, violations_eq_iff s, fun members => ?_⟩
  rw [Json.ofMembers, unknownKeys_violations]
  exact (pairwise_sortMembers members).filter _

end PublicPath.Proofs
