import PublicPath.Json.Writer
import PublicPath.Proofs.GeneratedPaths
import PublicPath.Proofs.SerialisedMaps

/-!
# Written maps

The text of a map is read back as the map, wherever the text of every further member of an endpoint
is read back as the value of the member. The text keeps the order of the map, so that nothing is
moved.
-/

namespace PublicPath.Proofs
open Json

/-- The text of a value, with the end of a member behind it, is read as something. -/
def ReadsWritten {α : Type} (read : List Char → Reading α) (v : Json) (x : α) : Prop :=
  ∀ c rest, c = ',' ∨ c = '\x7d' → read (v.write.toList ++ c :: rest) = .ok (x, c :: rest)

/-- The text of a value is read back inside an endpoint. -/
def IsReadBack (v : Json) : Prop := ReadsWritten (readValue (depthLimit - mapDepth)) v v

/-- The text of a member. -/
def memberText (m : String × Json) : List Char := literal m.1.toList ++ ':' :: m.2.write.toList

/-! ### Objects -/

section

variable {α : Type} {once : Option String} {value : String → List Char → Reading α}

lemma toList_writeMembers (members : List (String × Json)) :
    (writeMembers members).toList = members.flatMap fun m => ',' :: memberText m := by
  induction members with
  | nil => rfl
  | cons m members ih =>
    obtain ⟨name, v⟩ := m
    simp [writeMembers, String.toList_append, stringLiteral, ih, memberText]

lemma toList_write_object (m : String × Json) (members : List (String × Json)) :
    (write (.object (m :: members))).toList =
      '\x7b' :: (memberText m ++ (members.flatMap fun m => ',' :: memberText m) ++ ['\x7d']) := by
  obtain ⟨name, v⟩ := m
  simp [write, String.toList_append, stringLiteral, toList_writeMembers, memberText]

lemma readString_escaped (cs rest : List Char) :
    readString (cs.flatMap escapeChar ++ '"' :: rest) = .ok (cs, rest) := by
  have hpieces : List.Forall₂ EscapedAs cs (cs.map escapeChar) := by
    rw [List.forall₂_map_right_iff, List.forall₂_same]
    exact fun c _ => escapedAs_escapeChar c
  rw [List.flatMap_def, readString_flatten hpieces]

lemma literal_append (cs rest : List Char) :
    literal cs ++ rest = '"' :: (cs.flatMap escapeChar ++ '"' :: rest) := by
  simp [literal]

lemma readName_literal (name : String) (rest : List Char) :
    readName (literal name.toList ++ rest) = .ok (name, rest) := by
  rw [literal_append, readName, readString_escaped]
  simp [Except.map]

lemma readName_memberText (m : String × Json) (rest : List Char) :
    readName (memberText m ++ rest) = .ok (m.1, ':' :: (m.2.write.toList ++ rest)) := by
  rw [memberText, List.append_assoc, readName_literal, List.cons_append]

lemma skipSpace_memberText (m : String × Json) (rest : List Char) :
    skipSpace (memberText m ++ rest) = memberText m ++ rest := rfl

section

variable {name : String} {names : List String} {seen : Bool}

lemma not_refused (h : ∀ key, once = some key → (name :: names).count key + seen.toNat ≤ 1) :
    ¬ (seen ∧ once = some name) := by
  rintro ⟨rfl, hname⟩
  have h := h name hname
  simp at h

lemma count_tail_le (h : ∀ key, once = some key → (name :: names).count key + seen.toNat ≤ 1) :
    ∀ key, once = some key → names.count key + (seen || decide (once = some name)).toNat ≤ 1 := by
  rintro key rfl
  have h := h key rfl
  by_cases hname : key = name
  · subst hname
    simp only [List.count_cons_self] at h
    have hbool := (seen || decide (some key = some key)).toNat_le
    omega
  · simpa [hname, Ne.symm hname] using h

end

/-- The texts of members, one after the other, are read as the members. -/
lemma readMembers_write {m : String × α} {members : List (String × α)} {v : String × Json}
    {vs : List (String × Json)}
    (h : Matching (fun name x v => ReadsWritten (value name) v x) (m :: members) (v :: vs))
    {fuel : Nat} (hfuel : members.length < fuel) {seen : Bool}
    (honce : ∀ key, once = some key → ((m :: members).map (·.1)).count key + seen.toNat ≤ 1)
    (rest : List Char) :
    readMembers once value fuel seen
        (memberText v ++ ((vs.flatMap fun v => ',' :: memberText v) ++ '\x7d' :: rest)) =
      .ok (m :: members, rest) := by
  induction members generalizing m v vs fuel seen with
  | nil =>
    obtain ⟨⟨hname, hvalue⟩, hnil⟩ := List.forall₂_cons.mp h
    cases hnil
    obtain ⟨fuel, rfl⟩ := Nat.exists_eq_succ_of_ne_zero (by omega : fuel ≠ 0)
    exact readMembers_succ_eq_ok_iff.mpr ⟨m.1, _, _, m.2, _, hname ▸ readName_memberText v _,
      not_refused honce, rfl, hvalue _ _ (.inr rfl), .inl ⟨rfl, rfl⟩⟩
  | cons n members ih =>
    obtain ⟨⟨hname, hvalue⟩, htail⟩ := List.forall₂_cons.mp h
    obtain ⟨w, ws, hhead, hrest, rfl⟩ := List.forall₂_cons_left_iff.mp htail
    obtain ⟨fuel, rfl⟩ := Nat.exists_eq_succ_of_ne_zero (by omega : fuel ≠ 0)
    rw [List.length_cons] at hfuel
    have hless : members.length < fuel := by omega
    have hmore := ih (.cons hhead hrest) hless (count_tail_le honce)
    rw [← skipSpace_memberText w] at hmore
    rw [List.flatMap_cons, List.cons_append, List.cons_append, List.append_assoc]
    exact readMembers_succ_eq_ok_iff.mpr ⟨m.1, _, _, m.2, _, hname ▸ readName_memberText v _,
      not_refused honce, rfl, hvalue _ _ (.inl rfl), .inr ⟨_, _, rfl, hmore, rfl⟩⟩

lemma length_le_flatMap {β γ : Type} {f : β → List γ} (hf : ∀ x, f x ≠ []) (xs : List β) :
    xs.length ≤ (xs.flatMap f).length := by
  induction xs with
  | nil => simp
  | cons x xs ih =>
    have := List.length_pos_iff.mpr (hf x)
    rw [List.flatMap_cons, List.length_append, List.length_cons]
    omega

/-- The text of an object is read as its members. -/
lemma readTyped_write {members : List (String × α)} {vs : List (String × Json)}
    (h : Matching (fun name x v => ReadsWritten (value name) v x) members vs)
    (honce : ∀ key, once = some key → (members.map (·.1)).count key ≤ 1) (rest : List Char) :
    readTyped once value ((write (.object vs)).toList ++ rest) = .ok (members, rest) := by
  refine readTyped_eq_ok_iff.mpr ?_
  cases h with
  | nil => exact ⟨'\x7d' :: rest, rfl, rfl⟩
  | @cons m v members vs hhead htail =>
    have htext : (write (.object (v :: vs))).toList ++ rest = '\x7b' ::
        (memberText v ++ ((vs.flatMap fun v => ',' :: memberText v) ++ '\x7d' :: rest)) := by
      rw [toList_write_object]
      simp
    have hlength : members.length < (memberText v ++
        ((vs.flatMap fun v => ',' :: memberText v) ++ '\x7d' :: rest)).length := by
      have hvs := length_le_flatMap (f := fun v => ',' :: memberText v) (fun v => by simp) vs
      rw [← List.Forall₂.length_eq htail] at hvs
      simp only [List.length_append, List.length_cons]
      omega
    rw [htext]
    refine ⟨_, rfl, readObject_eq_ok_iff.mpr (.inr ⟨?_, ?_⟩)⟩
    · intro left hleft
      rw [skipSpace_memberText] at hleft
      cases hleft
    · rw [skipSpace_memberText]
      exact readMembers_write (.cons hhead htail) hlength honce rest

end

/-! ### Members in the order of their first places -/

section

variable {α : Type} {xs members : List (String × α)}

lemma insertLast_of_notMem {key : String} (h : key ∉ xs.map (·.1)) (value : α) :
    insertLast key value xs = xs ++ [(key, value)] := by
  induction xs with
  | nil => rfl
  | cons x xs ih =>
    rw [List.map_cons, List.mem_cons, not_or] at h
    rw [insertLast, if_neg (Ne.symm h.1), ih h.2, List.cons_append]

lemma foldl_insertLast_of_nodup (h : ((xs ++ members).map (·.1)).Nodup) :
    members.foldl (fun xs m => insertLast m.1 m.2 xs) xs = xs ++ members := by
  induction members generalizing xs with
  | nil => simp
  | cons m members ih =>
    have hnew : m.1 ∉ xs.map (·.1) := by
      rw [List.map_append, List.map_cons, List.nodup_middle, List.nodup_cons] at h
      exact fun hmem => h.1 (List.mem_append_left _ hmem)
    rw [List.append_cons] at h
    rw [List.foldl_cons, insertLast_of_notMem hnew, ih h, ← List.append_cons]

lemma collect_of_nodup (h : (members.map (·.1)).Nodup) : collect members = members :=
  foldl_insertLast_of_nodup (by simpa using h)

end

/-! ### The levels of a map -/

/-- The members of an endpoint as they stand in its text. -/
def fieldsOf (e : Endpoint) : List (String × EndpointField) :=
  (e.href.map fun href => ("href", EndpointField.href (some href))).toList ++
    e.extra.map fun m => (m.1, .other m.2)

section

variable {e : Endpoint} {environments : List (String × Endpoint)} {m : RuntimeMap}

lemma ofFields_fieldsOf (h : IsSound e) : Endpoint.ofFields (fieldsOf e) = e := by
  obtain ⟨href, extra⟩ := e
  have hsorted : sortMembers extra = extra := sortMembers_of_pairwise (pairwise_of_ordered h.extra)
  cases href <;>
    simp [fieldsOf, Endpoint.ofFields, List.findSome?_map, List.filterMap_map, Function.comp_def,
      hsorted]

lemma readField_href (href : String) :
    ReadsWritten (readField "href") (.string href) (.href (some href)) := by
  intro c rest _
  have htext : (write (.string href)).toList = literal href.toList := String.toList_ofList
  have hskip (cs : List Char) : skipSpace ('"' :: cs) = '"' :: cs := rfl
  rw [htext, literal_append, readField, if_pos rfl, readHref, hskip]
  simp only [readString_escaped, Except.map, String.ofList_toList]

lemma readField_other {name : String} (hname : name ≠ "href") {v : Json} (h : IsReadBack v) :
    ReadsWritten (readField name) v (.other v) := by
  intro c rest hc
  rw [readField, if_neg hname, h c rest hc]
  rfl

lemma matching_fieldsOf (h : "href" ∉ e.extra.map (·.1)) (hextra : ∀ m ∈ e.extra, IsReadBack m.2) :
    ∃ vs, e.toJson = .object vs ∧
      Matching (fun name x v => ReadsWritten (readField name) v x) (fieldsOf e) vs := by
  have hothers : Matching (fun name x v => ReadsWritten (readField name) v x)
      (e.extra.map fun m => (m.1, EndpointField.other m.2)) e.extra := by
    rw [Matching, List.forall₂_map_left_iff, List.forall₂_same]
    refine fun m hm => ⟨rfl, readField_other ?_ (hextra m hm)⟩
    rintro hname
    exact h (hname ▸ List.mem_map_of_mem hm)
  obtain ⟨href, extra⟩ := e
  cases href with
  | none => exact ⟨extra, rfl, hothers⟩
  | some href => exact ⟨_, rfl, .cons ⟨rfl, readField_href href⟩ hothers⟩

lemma count_fieldsOf (h : "href" ∉ e.extra.map (·.1)) :
    ((fieldsOf e).map (·.1)).count "href" ≤ 1 := by
  obtain ⟨href, extra⟩ := e
  have hzero : (extra.map (·.1)).count "href" = 0 := List.count_eq_zero.mpr h
  have hnames : (extra.map fun m => (m.1, EndpointField.other m.2)).map (·.1) = extra.map (·.1) := by
    rw [List.map_map]
    rfl
  cases href <;> simp [fieldsOf, hnames, hzero]

lemma readEndpoint_write (h : IsSound e) (hextra : ∀ m ∈ e.extra, IsReadBack m.2) :
    ReadsWritten readEndpoint e.toJson e := by
  intro c rest _
  obtain ⟨vs, hvs, hmatch⟩ := matching_fieldsOf h.href hextra
  have honce : ∀ key, some "href" = some key → ((fieldsOf e).map (·.1)).count key ≤ 1 := by
    rintro key ⟨⟩
    exact count_fieldsOf h.href
  rw [readEndpoint, hvs, readTyped_write hmatch honce]
  simp only [Except.map, ofFields_fieldsOf h]

lemma readEnvironments_write (h : Named IsSound environments)
    (hextra : ∀ x ∈ environments, ∀ m ∈ x.2.extra, IsReadBack m.2) :
    ReadsWritten readEnvironments (environmentsToJson environments) environments := by
  intro c rest _
  have hmatch : Matching (fun _ e v => ReadsWritten readEndpoint v e) environments
      (environments.map fun x => (x.1, x.2.toJson)) := by
    rw [Matching, List.forall₂_map_right_iff, List.forall₂_same]
    exact fun x hx => ⟨rfl, readEndpoint_write (h.values x hx) (hextra x hx)⟩
  rw [readEnvironments, environmentsToJson, readTyped_write hmatch (by simp)]
  simp only [Except.map, collect_of_nodup h.nodup]

lemma parse_write (h : SoundMap m)
    (hextra : ∀ entry ∈ m.entries, ∀ x ∈ entry.2, ∀ member ∈ x.2.extra, IsReadBack member.2) :
    RuntimeMap.parse m.toJson.write = .ok m := by
  have hmatch : Matching (fun _ x v => ReadsWritten readEnvironments v x) m.entries
      (m.entries.map fun x => (x.1, environmentsToJson x.2)) := by
    rw [Matching, List.forall₂_map_right_iff, List.forall₂_same]
    exact fun x hx => ⟨rfl, readEnvironments_write (h.values x hx) (hextra x hx)⟩
  have honce : ∀ key, none = some key → (m.entries.map (·.1)).count key ≤ 1 := by simp
  have hread := readTyped_write hmatch honce []
  rw [List.append_nil, ← toJson_eq] at hread
  refine readWhole?_eq_ok_iff.mpr ⟨[], ?_, rfl⟩
  rw [RuntimeMap.read, hread]
  simp only [Except.map, collect_of_nodup h.nodup]

end

/-- No map that is reached keeps an `href` among the further members of an endpoint. Its value is
read as the map itself, or in the order of the names as one with the same endpoints, which resolves
alike, and its text is read as the map where the texts of the further members are read back. The
value of a map that is loaded is what it was loaded from without the null `href` members of its
endpoints, up to the order of members. -/
theorem serialised_isRead :
    (∀ m, IsReachable m → ∀ x ∈ m.entries, ∀ y ∈ x.2, "href" ∉ y.2.extra.map (·.1)) ∧
      (∀ m, IsReachable m → RuntimeMap.ofJson? m.toJson = some m ∧
        ∃ again, RuntimeMap.ofJson? (ordered m.toJson) = some again ∧ AnswersAlike again m ∧
          ∀ environment entry, (⟨again, environment⟩ : RuntimeConfig).resolve entry =
            (⟨m, environment⟩ : RuntimeConfig).resolve entry) ∧
      (∀ m, IsReachable m → (∀ x ∈ m.entries, ∀ y ∈ x.2, ∀ z ∈ y.2.extra, IsReadBack z.2) →
        RuntimeMap.parse m.toJson.write = .ok m) ∧
      ∀ v m, ordered v = v → RuntimeMap.ofJson? v = some m →
        ordered m.toJson = withoutNullHrefs v := by
  refine ⟨fun m hm x hx y hy => ((hm.soundMap.values x hx).values y hy).href, fun m hm => ?_,
    fun m hm => parse_write hm.soundMap, fun v m => ordered_toJson⟩
  obtain ⟨again, hagain, halike⟩ := exists_ofJson?_ordered hm.soundMap
  exact ⟨ofJson?_toJson hm.soundMap, again, hagain, halike, halike.resolve⟩

/-- An endpoint with a null `href` beside another null member, and one with an `href` in between. -/
def nullMap : Json :=
  .object [("app", .object [("dev", .object [("by", .null), ("href", .null)]),
    ("prod", .object [("by", .null), ("href", .string "a"), ("to", .null)])])]

/-- What is loaded of it, with another endpoint in place of the first. -/
def nullMapChanged : RuntimeMap :=
  ⟨[("app", [("dev", ⟨some "b", []⟩), ("prod", ⟨some "a", [("by", .null), ("to", .null)]⟩)])]⟩

theorem serialised_isRead_null :
    RuntimeMap.ofJson? nullMapChanged.toJson = some nullMapChanged ∧
      RuntimeMap.parse nullMapChanged.toJson.write = .ok nullMapChanged ∧
      ∃ m, RuntimeMap.ofJson? nullMap = some m ∧
        ordered m.toJson = .object [("app", .object [("dev", .object [("by", .null)]),
          ("prod", .object [("by", .null), ("href", .string "a"), ("to", .null)])])] := by
  obtain ⟨-, hread, htext, hvalue⟩ := serialised_isRead
  have hordered : ordered nullMap = nullMap := by decide +kernel
  have hreachable : IsReachable nullMapChanged :=
    (IsReachable.value hordered rfl).insert "app" "dev" (.new "b")
  have hnull : IsReadBack .null := fun _ _ _ => rfl
  refine ⟨(hread _ hreachable).1, htext _ hreachable ?_, _, rfl, ?_⟩
  · simp only [nullMapChanged, List.forall_mem_cons, List.not_mem_nil, false_imp_iff, implies_true,
      hnull, and_self]
  · rw [hvalue nullMap _ hordered rfl]
    decide +kernel

/-- An endpoint without an `href`, but with a further member of that name. -/
def hiddenHref : RuntimeMap := RuntimeMap.empty.insert "app" "prod" ⟨none, [("href", .string "x")]⟩

/-- What is read of it. -/
def shownHref : RuntimeMap := ⟨[("app", [("prod", ⟨some "x", []⟩)])]⟩

/-- An array in an array, and so on. -/
def nested : Nat → Json
  | 0 => .null
  | n + 1 => .array [nested n]

/-- A map whose value is deeper than a text may be. -/
def deepMap : RuntimeMap := ⟨[("app", [("prod", ⟨none, [("x", nested 125)]⟩)])]⟩

lemma toList_write_nested (n : Nat) : (nested n).write.toList =
    List.replicate n '[' ++ ("null".toList ++ List.replicate n ']') := by
  induction n with
  | zero => rfl
  | succ n ih =>
    rw [nested, write, writeItems, List.replicate_succ, List.replicate_succ']
    simp [String.toList_append, ih]

lemma toList_write_deepMap : deepMap.toJson.write.toList =
    '\x7b' :: (literal "app".toList ++ ':' :: '\x7b' :: (literal "prod".toList ++ ':' :: '\x7b' ::
      (literal "x".toList ++ ':' :: (List.replicate 125 '[' ++ ("null".toList ++
        (List.replicate 125 ']' ++ ['\x7d', '\x7d', '\x7d'])))))) := by
  simp only [deepMap, toJson_eq, environmentsToJson, Endpoint.toJson, List.map_cons, List.map_nil,
    toList_write_object, memberText, toList_write_nested, List.flatMap_nil, List.append_nil,
    List.append_assoc, List.cons_append, List.nil_append]

/-- A further member that is called `href` becomes the `href` of its endpoint, in a value as in a
text, and the text of a map that is reached need not be one that can be read. -/
theorem hiddenHref_isLost :
    (∃ x ∈ hiddenHref.entries, ∃ y ∈ x.2, "href" ∈ y.2.extra.map (·.1)) ∧
      RuntimeMap.ofJson? hiddenHref.toJson = some shownHref ∧
      RuntimeMap.parse hiddenHref.toJson.write = .ok shownHref ∧ shownHref ≠ hiddenHref ∧
      (⟨hiddenHref, "prod"⟩ : RuntimeConfig).resolve "app" = .error (.missingHref "app" "prod") ∧
      (⟨shownHref, "prod"⟩ : RuntimeConfig).resolve "app" = .ok "x/" ∧
      IsReachable deepMap ∧ (RuntimeMap.parse deepMap.toJson.write).isOk = false := by
  have hsame : hiddenHref.toJson = shownHref.toJson := rfl
  have hempty : IsReachable .empty := .value (v := .object []) rfl rfl
  have hshown : IsReachable shownHref := hempty.insert "app" "prod" (.new "x")
  have hparse : RuntimeMap.parse shownHref.toJson.write = .ok shownHref :=
    parse_write hshown.soundMap (by simp [shownHref])
  have hdiffer : shownHref ≠ hiddenHref := by
    rintro ⟨⟩
  have hordered : ordered deepMap.toJson = deepMap.toJson := by decide +kernel
  have hrefused : (RuntimeMap.parse deepMap.toJson.write).isOk = false := by
    rw [RuntimeMap.parse, toList_write_deepMap]
    decide +kernel
  exact ⟨⟨_, List.mem_singleton.mpr rfl, _, List.mem_singleton.mpr rfl, List.mem_singleton.mpr rfl⟩,
    rfl, hsame ▸ hparse, hdiffer, rfl, rfl, .value hordered rfl, hrefused⟩

end PublicPath.Proofs
