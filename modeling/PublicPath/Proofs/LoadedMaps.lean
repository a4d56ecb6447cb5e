import PublicPath.Proofs.ContainerReaders
import PublicPath.Proofs.InsertedEndpoints
import PublicPath.Proofs.LoadedProjects
import PublicPath.Proofs.NamedMembers

/-!
# Loaded maps

A runtime map is read from its text at once, or from the generic value of the text among the globals
of a page. One way keeps the order of the text, the other sorts by name. Both find the same under
every entry and environment.
-/

namespace PublicPath.Proofs
open Json

/-- Whatever the reader reads, the reader of generic values reads over the same text. -/
def ReadsAs {α : Type} (R : α → Json → Prop) (depth : Nat) (read : List Char → Reading α) : Prop :=
  ∀ ⦃cs x rest⦄, read cs = .ok (x, rest) → ∃ v, readValue depth cs = .ok (v, rest) ∧ R x v

/-- Members with the same names in the same order. -/
def Matching {α β : Type} (R : String → α → β → Prop) :
    List (String × α) → List (String × β) → Prop :=
  List.Forall₂ fun m v => m.1 = v.1 ∧ R m.1 m.2 v.2

/-- The members of an object and its generic value; a name that is refused the second time stands
there once at most. -/
def ObjectOf {α : Type} (once : Option String) (R : String → α → Json → Prop)
    (members : List (String × α)) (v : Json) : Prop :=
  ∃ vs, v = ofMembers vs ∧ Matching R members vs ∧
    ∀ key, once = some key → (members.map (·.1)).count key ≤ 1

/-- The generic value of a member of an endpoint. -/
inductive FieldOf : String → EndpointField → Json → Prop
  | href (s : String) : FieldOf "href" (.href (some s)) (.string s)
  | null : FieldOf "href" (.href none) .null
  | other {name : String} (h : name ≠ "href") (v : Json) : FieldOf name (.other v) v

/-- The `href` of an endpoint and what stands under that name. -/
inductive HrefOf : Option String → Option Json → Prop
  | absent : HrefOf none none
  | null : HrefOf none (some .null)
  | text (s : String) : HrefOf (some s) (some (.string s))

/-- The environments of an entry, by what is found under each. -/
def EnvironmentsOf (environments : List (String × Endpoint)) (v : Json) : Prop :=
  ∃ ys, environmentsOfJson? v = some ys ∧ ∀ name, ys.lookup name = environments.lookup name

/-- The same endpoints under the same entries and environments. -/
def AnswersAlike (m other : RuntimeMap) : Prop :=
  ∀ entry, Option.Rel (fun xs ys => ∀ environment, xs.lookup environment = ys.lookup environment)
    (m.environments? entry) (other.environments? entry)

section

variable {α β : Type} {once : Option String} {value : String → List Char → Reading α}
  {fuel depth : Nat} {seen : Bool} {cs rest : List Char} {members : List (String × α)}

/-! ### Readers of objects -/

lemma ReadsAs.map {R : α → Json → Prop} {S : β → Json → Prop} {read : List Char → Reading α}
    {g : α → β} (hread : ReadsAs R depth read) (h : ∀ x v, R x v → S (g x) v) :
    ReadsAs S depth fun cs => (read cs).map fun p => (g p.1, p.2) := by
  intro cs y rest hy
  obtain ⟨⟨x, left⟩, hx, heq⟩ := map_eq_ok_iff.mp hy
  cases heq
  obtain ⟨v, hv, hR⟩ := hread hx
  exact ⟨v, hv, h x v hR⟩

/-- The reader of generic values reads the members that any other reader reads. -/
lemma readMembers_readsAs {R : String → α → Json → Prop}
    (hvalue : ∀ name, ReadsAs (R name) depth (value name)) {other : Bool}
    (h : readMembers once value fuel seen cs = .ok (members, rest)) :
    ∃ vs, readMembers none (fun _ => readValue depth) fuel other cs = .ok (vs, rest) ∧
      Matching R members vs := by
  induction fuel generalizing seen other cs members with
  | zero => cases h
  | succ fuel ih =>
    obtain ⟨name, behindName, behindColon, x, behind, hname, -, hcolon, hx, hend⟩ :=
      readMembers_succ_eq_ok_iff.mp h
    obtain ⟨v, hv, hR⟩ := hvalue name hx
    have hnone : ¬ (other ∧ (none : Option String) = some name) := by simp
    obtain ⟨hclose, rfl⟩ | ⟨next, more, hcomma, hmore, rfl⟩ := hend
    · exact ⟨[(name, v)], readMembers_succ_eq_ok_iff.mpr
        ⟨name, _, _, v, behind, hname, hnone, hcolon, hv, .inl ⟨hclose, rfl⟩⟩, .cons ⟨rfl, hR⟩ .nil⟩
    · obtain ⟨vs, hvs, hmatch⟩ := ih hmore
      exact ⟨(name, v) :: vs, readMembers_succ_eq_ok_iff.mpr
        ⟨name, _, _, v, behind, hname, hnone, hcolon, hv, .inr ⟨next, vs, hcomma, hvs, rfl⟩⟩,
        .cons ⟨rfl, hR⟩ hmatch⟩

lemma wrongType_ne_ok (cs : List Char) (x : α × List Char) : wrongType cs ≠ .ok x := by
  unfold wrongType
  split
  · simp
  · simp
  · split <;> simp

lemma readTyped_eq_ok_iff : readTyped once value cs = .ok (members, rest) ↔
    ∃ left, skipSpace cs = '\x7b' :: left ∧ readObject once value left = .ok (members, rest) := by
  unfold readTyped
  split
  · rename_i left hskip
    simp [hskip]
  · rename_i hopen
    constructor
    · intro h
      exact absurd h (wrongType_ne_ok _ _)
    · rintro ⟨left, hskip, -⟩
      exact absurd hskip (hopen left)

lemma readTyped_readsAs {R : String → α → Json → Prop}
    (hvalue : ∀ name, ReadsAs (R name) depth (value name)) :
    ReadsAs (ObjectOf once R) (depth + 1) (readTyped once value) := by
  intro cs members rest h
  obtain ⟨left, hskip, hobject⟩ := readTyped_eq_ok_iff.mp h
  have hread : ∃ vs, readObject none (fun _ => readValue depth) left = .ok (vs, rest) ∧
      Matching R members vs ∧ ∀ key, once = some key → (members.map (·.1)).count key ≤ 1 := by
    obtain ⟨hclose, rfl⟩ | ⟨hopen, hmembers⟩ := readObject_eq_ok_iff.mp hobject
    · exact ⟨[], readObject_eq_ok_iff.mpr (.inl ⟨hclose, rfl⟩), .nil, by simp⟩
    · obtain ⟨vs, hvs, hmatch⟩ := readMembers_readsAs hvalue hmembers
      refine ⟨vs, readObject_eq_ok_iff.mpr (.inr ⟨hopen, hvs⟩), hmatch, ?_⟩
      rintro key rfl
      exact readMembers_count hmembers
  obtain ⟨vs, hvs, hmatch, honce⟩ := hread
  refine ⟨ofMembers vs, ?_, vs, rfl, hmatch, honce⟩
  rw [readValue, hskip]
  simp only [hvs]
  rfl

end

/-! ### Members under their names -/

lemma eq_of_optionRel {α : Type} {x y : Option α} (h : Option.Rel Eq x y) : x = y := by
  cases h with
  | none => rfl
  | some h => rw [h]

section

variable {α β : Type} {R : String → α → β → Prop} {members : List (String × α)}
  {vs : List (String × β)}

lemma Matching.names (h : Matching R members vs) : members.map (·.1) = vs.map (·.1) := by
  induction h with
  | nil => rfl
  | cons hhead _ ih => simp [hhead.1, ih]

lemma Matching.lookup (h : Matching R members vs) (name : String) :
    Option.Rel (R name) (members.lookup name) (vs.lookup name) := by
  induction h with
  | nil => exact .none
  | @cons m v _ _ hhead _ ih =>
    obtain ⟨name', x⟩ := m
    obtain ⟨other, y⟩ := v
    obtain ⟨rfl, hR⟩ := hhead
    rw [lookup_cons_eq_ite, lookup_cons_eq_ite]
    by_cases hname : name = name'
    · rw [if_pos hname, if_pos hname, hname]
      exact .some hR
    · rw [if_neg hname, if_neg hname]
      exact ih

lemma Matching.reverse (h : Matching R members vs) : Matching R members.reverse vs.reverse :=
  List.rel_reverse h

lemma lookup_mapMembers? {f : α → Option β} (h : mapMembers? f members = some vs) (name : String) :
    vs.lookup name = (members.lookup name).bind f := by
  induction members generalizing vs with
  | nil =>
    cases h
    rfl
  | cons m members ih =>
    obtain ⟨other, x⟩ := m
    rw [mapMembers?] at h
    split at h
    · rename_i y more hy hmore
      cases h
      rw [lookup_cons_eq_ite, lookup_cons_eq_ite, ih hmore]
      by_cases hname : name = other <;> simp [hname, hy]
    · cases h

lemma exists_mapMembers? {f : α → Option β} (h : ∀ m ∈ members, ∃ y, f m.2 = some y) :
    ∃ ys, mapMembers? f members = some ys := by
  induction members with
  | nil => exact ⟨[], rfl⟩
  | cons m members ih =>
    obtain ⟨y, hy⟩ := h m List.mem_cons_self
    obtain ⟨ys, hys⟩ := ih fun m hm => h m (List.mem_cons_of_mem _ hm)
    exact ⟨(m.1, y) :: ys, by rw [mapMembers?, hy, hys]⟩

/-- Reading the generic values of members in the order of their names gives what stands under the
names in the order of the text. -/
lemma mapMembers?_sortMembers {f : β → Option α} {S : α → α → Prop}
    (h : Matching (fun _ x v => ∃ y, f v = some y ∧ S y x) members vs) :
    ∃ ys, mapMembers? f (sortMembers vs) = some ys ∧
      ∀ name, Option.Rel S (ys.lookup name) ((collect members).lookup name) := by
  have hrel (name : String) := h.reverse.lookup name
  have hsome : ∀ v ∈ sortMembers vs, ∃ y, f v.2 = some y := by
    intro v hv
    have hlookup := lookup_of_mem (pairwise_sortMembers vs) hv
    have hrel := hrel v.1
    rw [← lookup_sortMembers vs, hlookup] at hrel
    generalize members.reverse.lookup v.1 = x at hrel
    cases hrel with
    | some hR =>
      obtain ⟨y, hy, -⟩ := hR
      exact ⟨y, hy⟩
  obtain ⟨ys, hys⟩ := exists_mapMembers? hsome
  refine ⟨ys, hys, fun name => ?_⟩
  have hrel := hrel name
  rw [lookup_mapMembers? hys, lookup_sortMembers, lookup_collect]
  generalize members.reverse.lookup name = x, vs.reverse.lookup name = v at hrel ⊢
  cases hrel with
  | none => exact .none
  | some hR =>
    obtain ⟨y, hy, hS⟩ := hR
    rw [Option.bind_some, hy]
    exact .some hS

end

/-! ### Endpoints and maps -/

section

variable {cs rest : List Char}

lemma readValue_of_scalar {c : Char} {left : List Char} (h : skipSpace cs = c :: left)
    (harray : c ≠ '[') (hobject : c ≠ '\x7b') (depth : Nat) :
    readValue depth cs = readScalar (c :: left) := by
  unfold readValue
  split
  · rename_i hskip
    exact absurd (List.cons.inj (h.symm.trans hskip)).1 harray
  · rename_i hskip
    exact absurd (List.cons.inj (h.symm.trans hskip)).1 hobject
  · rw [h]

lemma readField_readsAs (name : String) :
    ReadsAs (FieldOf name) (depthLimit - mapDepth) (readField name) := by
  intro cs field rest h
  rw [readField] at h
  split at h
  · rename_i hname
    subst hname
    unfold readHref at h
    split at h
    · rename_i left hskip
      obtain ⟨⟨s, left⟩, hs, heq⟩ := map_eq_ok_iff.mp h
      cases heq
      refine ⟨.string (String.ofList s), ?_, .href _⟩
      rw [readValue_of_scalar hskip (by decide) (by decide)]
      simp [readScalar, hs, Except.map]
    · rename_i left hskip
      obtain ⟨left, hs, heq⟩ := map_eq_ok_iff.mp h
      cases heq
      refine ⟨.null, ?_, .null⟩
      rw [readValue_of_scalar hskip (by decide) (by decide), readScalar, hs]
      rfl
    · exact absurd h (wrongType_ne_ok _ _)
  · rename_i hname
    obtain ⟨⟨v, left⟩, hv, heq⟩ := map_eq_ok_iff.mp h
    cases heq
    exact ⟨v, hv, .other hname v⟩

variable {fields : List (String × EndpointField)} {vs : List (String × Json)}

lemma hrefOf_ofFields (h : Matching FieldOf fields vs)
    (honce : (fields.map (·.1)).count "href" ≤ 1) :
    HrefOf (Endpoint.ofFields fields).href (vs.reverse.lookup "href") := by
  induction h with
  | nil => exact .absent
  | @cons m v fields vs hhead htail ih =>
    obtain ⟨name, field⟩ := m
    obtain ⟨other, v⟩ := v
    obtain ⟨hname, hfield⟩ := hhead
    dsimp only at hname hfield
    subst hname
    rw [List.map_cons, List.count_cons] at honce
    have hrest := ih (by omega)
    rw [List.reverse_cons, List.lookup_append, lookup_cons_eq_ite, List.lookup_nil]
    -- A second `href` would have been refused.
    have hlast (hname : name = "href") : vs.reverse.lookup "href" = none := by
      subst hname
      have hzero : (fields.map (·.1)).count "href" = 0 := by simpa using honce
      rw [Matching.names htail] at hzero
      rw [lookup_eq_none_iff_notMem, List.map_reverse, List.mem_reverse]
      exact List.count_eq_zero.mp hzero
    cases hfield with
    | href s =>
      rw [hlast rfl]
      exact .text s
    | null =>
      rw [hlast rfl] at hrest ⊢
      have hnone : (Endpoint.ofFields fields).href = none := by
        generalize (Endpoint.ofFields fields).href = href at hrest
        cases hrest
        rfl
      have hsame : (Endpoint.ofFields (("href", .href none) :: fields)).href =
          (Endpoint.ofFields fields).href := rfl
      rw [hsame, hnone]
      exact .null
    | other hname =>
      rw [if_neg hname.symm, Option.or_none]
      exact hrest

lemma extra_ofFields (h : Matching FieldOf fields vs) :
    (Endpoint.ofFields fields).extra = sortMembers (vs.filter (·.1 ≠ "href")) := by
  refine congrArg sortMembers ?_
  induction h with
  | nil => rfl
  | @cons m v _ _ hhead _ ih =>
    obtain ⟨name, field⟩ := m
    obtain ⟨other, v⟩ := v
    obtain ⟨hname, hfield⟩ := hhead
    dsimp only at hname hfield
    subst hname
    cases hfield with
    | href s => simpa using ih
    | null => simpa using ih
    | other hname => simpa [hname] using ih

lemma ofMembers?_sortMembers (h : Matching FieldOf fields vs)
    (honce : (fields.map (·.1)).count "href" ≤ 1) :
    Endpoint.ofMembers? (sortMembers vs) = some (.ofFields fields) := by
  have hhref := hrefOf_ofFields h honce
  have hextra := extra_ofFields h
  have hfilter := filter_sortMembers (fun name => decide (name ≠ "href")) vs
  rw [Endpoint.ofMembers?, lookup_sortMembers, hfilter, ← hextra]
  generalize Endpoint.ofFields fields = e, vs.reverse.lookup "href" = v at hhref ⊢
  obtain ⟨href, extra⟩ := e
  dsimp only at hhref ⊢
  cases hhref <;> rfl

/-! ### The levels of a map -/

lemma readEndpoint_readsAs :
    ReadsAs (fun e v => Endpoint.ofJson? v = some e) (depthLimit - mapDepth + 1) readEndpoint := by
  refine (readTyped_readsAs readField_readsAs).map ?_
  rintro fields _ ⟨vs, rfl, hmatch, honce⟩
  exact ofMembers?_sortMembers hmatch (honce "href" rfl)

lemma readEnvironments_readsAs :
    ReadsAs EnvironmentsOf (depthLimit - mapDepth + 1 + 1) readEnvironments := by
  refine (readTyped_readsAs fun _ => readEndpoint_readsAs).map ?_
  rintro members _ ⟨vs, rfl, hmatch, -⟩
  obtain ⟨ys, hys, hlookup⟩ := mapMembers?_sortMembers (S := Eq)
    (hmatch.imp fun m v hm => ⟨hm.1, m.2, hm.2, rfl⟩)
  exact ⟨ys, hys, fun name => eq_of_optionRel (hlookup name)⟩

lemma read_readsAs : ReadsAs (fun m v => ∃ other, RuntimeMap.ofJson? v = some other ∧
    AnswersAlike other m) depthLimit RuntimeMap.read := by
  change ReadsAs _ (depthLimit - mapDepth + 1 + 1 + 1) _
  refine (readTyped_readsAs fun _ => readEnvironments_readsAs).map
    (g := fun members => RuntimeMap.mk (collect members)) ?_
  rintro members _ ⟨vs, rfl, hmatch, -⟩
  obtain ⟨ys, hys, hlookup⟩ := mapMembers?_sortMembers (f := environmentsOfJson?)
    (S := fun xs ys => ∀ name, xs.lookup name = ys.lookup name) hmatch
  refine ⟨⟨ys⟩, ?_, hlookup⟩
  rw [ofMembers, RuntimeMap.ofJson?, hys]
  rfl

/-! ### Whole texts -/

lemma readWhole?_readsAs {α : Type} {R : α → Json → Prop} {depth : Nat}
    {read : List Char → Reading α} (hread : ReadsAs R depth read) {x : α}
    (h : readWhole? read cs = .ok x) : ∃ v, readWhole? (readValue depth) cs = .ok v ∧ R x v := by
  obtain ⟨rest, hx, hspace⟩ := readWhole?_eq_ok_iff.mp h
  obtain ⟨v, hv, hR⟩ := hread hx
  exact ⟨v, readWhole?_eq_ok_iff.mpr ⟨rest, hv, hspace⟩, hR⟩

lemma parse_answersAlike {source : String} {m : RuntimeMap} (h : RuntimeMap.parse source = .ok m) :
    ∃ value other, Json.parse source = .ok value ∧ RuntimeMap.ofJson? value = some other ∧
      AnswersAlike other m := by
  obtain ⟨value, hvalue, other, hother, halike⟩ := readWhole?_readsAs read_readsAs h
  exact ⟨value, other, hvalue, hother, halike⟩

variable {m other : RuntimeMap}

lemma AnswersAlike.resolve (h : AnswersAlike other m) (environment entry : String) :
    (⟨other, environment⟩ : RuntimeConfig).resolve entry =
      (⟨m, environment⟩ : RuntimeConfig).resolve entry := by
  have h := h entry
  rw [RuntimeConfig.resolve, RuntimeConfig.resolve]
  dsimp only
  generalize other.environments? entry = xs, m.environments? entry = ys at h ⊢
  cases h with
  | none => rfl
  | some h => simp only [h environment]

lemma AnswersAlike.mem_entryNames_iff (h : AnswersAlike other m) (entry : String) :
    entry ∈ other.entryNames ↔ entry ∈ m.entryNames := by
  have h := h entry
  rw [← environments?_ne_none, ← environments?_ne_none]
  generalize other.environments? entry = xs, m.environments? entry = ys at h ⊢
  cases h <;> simp

lemma loadRuntime_map_run (f : Files) (file environment : String) :
    ((loadRuntime (some (.map file environment)) : StateM Files _).run f).1 =
      match fileText f file with
      | .error e => .error ((Failure.ofConfig (.file e)).within s!"Failed to load runtime map {file}")
      | .ok content =>
        match RuntimeMap.parse content with
        | .error fault => .error ((Failure.ofConfig (.unreadable fault.kind
            (fault.message content.toList))).within s!"Failed to load runtime map {file}")
        | .ok map => .ok ⟨map, environment⟩ := by
  rw [loadRuntime, run_bind_eq (readText_run f file)]
  cases fileText f file with
  | error e => rfl
  | ok content =>
    dsimp only
    cases RuntimeMap.parse content <;> rfl

end

/-- Where the map of a file can be read, so can the generic value of its text, and the globals of a
page with that value and the same environment give the same answers and the same entries. -/
theorem ofGlobals_of_loadRuntime (f : Files) (file environment source : String)
    (config : RuntimeConfig) (hsource : fileText f file = .ok source)
    (hload : ((loadRuntime (some (.map file environment)) : StateM Files _).run f).1 = .ok config) :
    ∃ value, Json.parse source = .ok value ∧
      ∀ globals : Json, globals.get? mapGlobal = some value →
        globals.get? environmentGlobal = some (.string environment) →
          ∃ other, RuntimeConfig.ofGlobals globals = .ok other ∧
            (∀ entry, other.resolve entry = config.resolve entry) ∧
            ∀ entry, entry ∈ other.map.entryNames ↔ entry ∈ config.map.entryNames := by
  rw [loadRuntime_map_run, hsource] at hload
  dsimp only at hload
  split at hload
  · cases hload
  rename_i m hm
  cases hload
  obtain ⟨value, other, hvalue, hother, halike⟩ := parse_answersAlike hm
  refine ⟨value, hvalue, fun globals hmap henvironment => ⟨⟨other, environment⟩, ?_,
    halike.resolve environment, halike.mem_entryNames_iff⟩⟩
  simp only [RuntimeConfig.ofGlobals, hmap, hother, henvironment]

/-- An entry, an environment and another member stand twice each, and one `href` is null. -/
def repeatedMap : String :=
  "\x7b\"main\": \x7b\"prod\": \x7b\x7d\x7d, \"app\": \x7b\"prod\": \x7b\"href\": null\x7d\x7d, " ++
    "\"main\": \x7b\"prod\": \x7b\"href\": \"a\"\x7d, " ++
    "\"prod\": \x7b\"by\": \"x\", \"href\": \"b/\", \"by\": []\x7d\x7d\x7d"

def mapFile : Files := ⟨[], [(["map.json"], .file repeatedMap.toUTF8)]⟩

theorem ofGlobals_of_loadRuntime_repeated :
    ∃ value other, Json.parse repeatedMap = .ok value ∧
      RuntimeConfig.ofGlobals (.object [(environmentGlobal, .string "prod"), (mapGlobal, value)]) =
        .ok other ∧
      other.resolve "main" = .ok "b//" ∧ other.resolve "app" = .error (.missingHref "app" "prod") ∧
      "app" ∈ other.map.entryNames := by
  have hsource : fileText mapFile "map.json" = .ok repeatedMap := by decide +kernel
  have hanswers : ((loadRuntime (some (.map "map.json" "prod")) : StateM Files _).run mapFile).1.map
      (fun c => (c.resolve "main", c.resolve "app", c.map.entryNames)) =
        .ok (.ok "b//", .error (.missingHref "app" "prod"), ["main", "app"]) := by
    rw [loadRuntime_map_run, hsource]
    decide +kernel
  obtain ⟨config, hload, hconfig⟩ := map_eq_ok_iff.mp hanswers
  obtain ⟨value, hvalue, hglobals⟩ := ofGlobals_of_loadRuntime mapFile "map.json" "prod" repeatedMap
    config hsource hload
  obtain ⟨other, hother, hresolve, hentries⟩ :=
    hglobals (.object [(environmentGlobal, .string "prod"), (mapGlobal, value)]) rfl rfl
  simp only [Prod.mk.injEq] at hconfig
  obtain ⟨hmain, happ, hnames⟩ := hconfig
  refine ⟨value, other, hvalue, hother, ?_, ?_, ?_⟩
  · rw [hresolve, hmain]
  · rw [hresolve, happ]
  · rw [hentries, hnames]
    decide

end PublicPath.Proofs
