import PublicPath.Config.Document
import PublicPath.Proofs.ContainerReaders
import PublicPath.Proofs.NamedMembers

/-!
# Ordered values

A generic value has the members of its objects in the order of their names, each name once. So has
the value of every text, and a value that is put together in another order is brought into this one.
-/

namespace PublicPath.Proofs
open Json

mutual

/-- The value with all its objects in the order of their names. -/
def ordered : Json → Json
  | .array items => .array (orderedItems items)
  | .object members => .ofMembers (orderedMembers members)
  | v => v

def orderedItems : List Json → List Json
  | [] => []
  | v :: rest => ordered v :: orderedItems rest

def orderedMembers : List (String × Json) → List (String × Json)
  | [] => []
  | (name, v) :: rest => (name, ordered v) :: orderedMembers rest

end

/-! ### Objects -/

section

variable {cs rest : List Char} {v : Json} {members : List (String × Json)}

lemma orderedItems_of_forall {items : List Json} (h : ∀ v ∈ items, ordered v = v) :
    orderedItems items = items := by
  induction items with
  | nil => rfl
  | cons v items ih =>
    rw [orderedItems, h v List.mem_cons_self, ih fun w hw => h w (List.mem_cons_of_mem _ hw)]

lemma orderedMembers_of_forall (h : ∀ m ∈ members, ordered m.2 = m.2) :
    orderedMembers members = members := by
  induction members with
  | nil => rfl
  | cons m members ih =>
    rw [orderedMembers, h m List.mem_cons_self, ih fun w hw => h w (List.mem_cons_of_mem _ hw)]

lemma ordered_ofMembers (h : ∀ m ∈ members, ordered m.2 = m.2) :
    ordered (.ofMembers members) = .ofMembers members := by
  have hmembers := orderedMembers_of_forall fun m hm => h m (mem_sortMembers hm)
  rw [ofMembers, ordered, hmembers, ofMembers, sortMembers_of_pairwise (pairwise_sortMembers _)]

lemma pairwise_of_ordered (h : ordered (.object members) = .object members) :
    (members.map (·.1)).Pairwise (· < ·) := by
  rw [ordered, ofMembers, Json.object.injEq] at h
  rw [← h]
  exact pairwise_sortMembers _

lemma orderedMembers_eq_map (members : List (String × Json)) :
    orderedMembers members = members.map fun m => (m.1, ordered m.2) := by
  induction members with
  | nil => rfl
  | cons m members ih => rw [orderedMembers, ih, List.map_cons]

/-- An object is in order where its names are and every value under them is. -/
lemma ordered_object_iff : ordered (.object members) = .object members ↔
    (members.map (·.1)).Pairwise (· < ·) ∧ ∀ m ∈ members, ordered m.2 = m.2 := by
  constructor
  · intro h
    have hnames := pairwise_of_ordered h
    have hsame : (orderedMembers members).map (·.1) = members.map (·.1) := by
      rw [orderedMembers_eq_map, List.map_map]
      rfl
    refine ⟨hnames, fun m hm => ?_⟩
    rw [ordered, ofMembers, sortMembers_of_pairwise (hsame ▸ hnames), Json.object.injEq,
      orderedMembers_eq_map] at h
    have hsnd := List.map_inj_left.mp (h.trans (List.map_id members).symm) m hm
    exact congrArg Prod.snd hsnd
  · rintro ⟨hnames, hvalues⟩
    rw [ordered, orderedMembers_of_forall hvalues, ofMembers, sortMembers_of_pairwise hnames]

/-! ### Reading JSON -/

lemma ordered_of_readScalar (h : readScalar cs = .ok (v, rest)) : ordered v = v := by
  unfold readScalar at h
  split at h
  case h_5 =>
    split at h
    · obtain ⟨_, -, heq⟩ := map_eq_ok_iff.mp h
      cases heq
      rfl
    · cases h
  case h_6 => cases h
  all_goals
    obtain ⟨_, -, heq⟩ := map_eq_ok_iff.mp h
    cases heq
    rfl

lemma ordered_of_readValue {depth : Nat} (h : readValue depth cs = .ok (v, rest)) :
    ordered v = v := by
  induction depth generalizing cs v rest with
  | zero =>
    unfold readValue at h
    split at h
    · cases h
    · cases h
    · exact ordered_of_readScalar h
  | succ depth ih =>
    unfold readValue at h
    split at h
    · obtain ⟨⟨items, left⟩, hitems, heq⟩ := map_eq_ok_iff.mp h
      cases heq
      rw [ordered, orderedItems_of_forall (readArray_forall ih hitems)]
    · obtain ⟨⟨members, left⟩, hmembers, heq⟩ := map_eq_ok_iff.mp h
      cases heq
      exact ordered_ofMembers (readObject_forall ih hmembers)
    · exact ordered_of_readScalar h

lemma ordered_of_parse {source : String} (h : Json.parse source = .ok v) : ordered v = v := by
  obtain ⟨rest, hread, -⟩ := readWhole?_eq_ok_iff.mp h
  exact ordered_of_readValue hread

end

/-! ### Reading YAML -/

/-- What holds of all that a reader of nodes gives. -/
def Yields {α : Type} (P : α → Prop) (x : Yaml.Valuing α) : Prop :=
  ∀ s y t, x.run s = .ok (y, t) → P y

section

variable {α β : Type} {P : β → Prop}

lemma yields_problemAt (problem : String) (mark : Yaml.Mark) :
    Yields P (Yaml.problemAt problem mark) := by
  intro s y t h
  cases h

lemma Yields.pure {y : β} (h : P y) : Yields P (pure y) := by
  intro s z t hz
  cases hz
  exact h

lemma Yields.bind {Q : α → Prop} {x : Yaml.Valuing α} {f : α → Yaml.Valuing β} (hx : Yields Q x)
    (hf : ∀ a, Q a → Yields P (f a)) : Yields P (x >>= f) := by
  intro s y t h
  rw [StateT.run_bind] at h
  cases hs : x.run s with
  | error e =>
    rw [hs] at h
    cases h
  | ok found =>
    rw [hs] at h
    exact hf _ (hx s found.1 found.2 hs) _ _ _ h

lemma Yields.mapM {f : α → Yaml.Valuing β} (h : ∀ a, Yields P (f a)) (as : List α) :
    Yields (fun ys => ∀ y ∈ ys, P y) (as.mapM f) := by
  induction as with
  | nil =>
    rw [List.mapM_nil]
    exact .pure (by simp)
  | cons a as ih =>
    rw [List.mapM_cons]
    refine (h a).bind fun y hy => ih.bind fun ys hys => .pure ?_
    simpa using ⟨hy, hys⟩

lemma yields_true (x : Yaml.Valuing α) : Yields (fun _ => True) x := fun _ _ _ _ => trivial

end

lemma ordered_ofFloat (x : Float) : ordered (Yaml.ofFloat x) = Yaml.ofFloat x := by
  unfold Yaml.ofFloat
  split <;> rfl

lemma ordered_of_plainValue {s : String} {v : Json} (h : Yaml.plainValue s = .ok v) :
    ordered v = v := by
  unfold Yaml.plainValue at h
  dsimp only at h
  split at h
  · cases h
    rfl
  split at h
  · cases h
    rfl
  split at h
  · cases h
    rfl
  · cases h
  split at h
  · cases h
    exact ordered_ofFloat _
  · cases h
    rfl

lemma ordered_of_taggedValue {tag s : String} {v : Json} (h : Yaml.taggedValue tag s = .ok v) :
    ordered v = v := by
  unfold Yaml.taggedValue at h
  dsimp only at h
  split_ifs at h
  · split at h <;> cases h
    rfl
  · split at h <;> cases h
    rfl
  · split at h <;> cases h
    exact ordered_ofFloat _
  · cases h
    rfl
  · cases h
    rfl

lemma yields_valueWith {d : Yaml.Document} {limit : Nat}
    {inner : Option (Yaml.Node → Yaml.Valuing Json)}
    (hinner : ∀ read, inner = some read → ∀ n, Yields (fun v => ordered v = v) (read n))
    (n : Yaml.Node) : Yields (fun v => ordered v = v) (n.valueWith d limit inner) := by
  unfold Yaml.Node.valueWith
  refine (yields_true _).bind fun n _ => ?_
  dsimp only
  split
  · split
    · exact yields_problemAt _ _
    · split
      · rename_i x hx
        refine .pure ?_
        split at hx
        · exact ordered_of_taggedValue hx
        · split at hx
          · exact ordered_of_plainValue hx
          · cases hx
            rfl
      · exact yields_problemAt _ _
  · split
    · exact yields_problemAt _ _
    · split
      · exact yields_problemAt _ _
      · rename_i read
        refine (Yields.mapM (hinner read rfl) _).bind fun items hitems => .pure ?_
        rw [ordered, orderedItems_of_forall hitems]
  · split
    · exact yields_problemAt _ _
    · split
      · exact yields_problemAt _ _
      · rename_i read
        refine (Yields.mapM (P := fun m : String × Json => ordered m.2 = m.2) ?_ _).bind
          fun members hmembers => .pure (ordered_ofMembers hmembers)
        intro m
        exact (yields_true _).bind fun key _ => (hinner read rfl _).bind fun v hv => .pure hv
  · exact yields_problemAt _ _

lemma yields_value (d : Yaml.Document) (limit depth : Nat) (n : Yaml.Node) :
    Yields (fun v => ordered v = v) (n.value d limit depth) := by
  induction depth generalizing n with
  | zero =>
    refine yields_valueWith ?_ n
    rintro read ⟨⟩
  | succ depth ih =>
    refine yields_valueWith ?_ n
    rintro read ⟨⟩
    exact ih

lemma ordered_of_parseYaml {source : String} {v : Json} (h : Yaml.parse source = .ok v) :
    ordered v = v := by
  unfold Yaml.parse at h
  split at h
  · cases h
  rename_i document isLast _
  split at h
  · cases h
  rename_i value hvalue
  split at h
  · cases h
    unfold Yaml.Document.value at hvalue
    split at hvalue
    · cases hvalue
      rfl
    · obtain ⟨⟨x, count⟩, hx, heq⟩ := map_eq_ok_iff.mp hvalue
      cases heq
      exact yields_value _ _ _ _ _ _ _ hx
  · cases h

/-- The value of a configuration file is in order, whichever format the file has. -/
lemma ordered_of_readDocument {path content : String} {v : Json}
    (h : readDocument path content = .ok v) : ordered v = v := by
  unfold readDocument at h
  split at h
  · split at h <;> cases h
    exact ordered_of_parse ‹_›
  · split at h <;> cases h
    exact ordered_of_parseYaml ‹_›
  · split at h <;> cases h
    exact ordered_of_parseYaml ‹_›
  · cases h

end PublicPath.Proofs
