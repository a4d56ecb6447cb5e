import Mathlib.Data.List.Induction
import Mathlib.Tactic.Common
import PublicPath.Endpoint.Resolve
import PublicPath.Proofs.NamedMembers

/-!
# Inserted endpoints

Endpoints are inserted into a runtime map while the active environment changes. What an entry
resolves to depends on the last insertion under the entry and the active environment, and the
entries are listed in the order of their first insertions.
-/

namespace PublicPath.Proofs

inductive Change where
  | insert (entry environment : String) (endpoint : Endpoint)
  | activate (environment : String)

def change (c : RuntimeConfig) : Change → RuntimeConfig
  | .insert entry environment endpoint => ⟨c.map.insert entry environment endpoint, c.environment⟩
  | .activate environment => ⟨c.map, environment⟩

/-- What some changes lead to from an empty map. -/
def changed (initial : String) (history : List Change) : RuntimeConfig :=
  history.foldl change ⟨.empty, initial⟩

/-- No later change inserts an endpoint under the same entry and environment. -/
def IsLastInsertion (history : List Change) (entry environment : String) (endpoint : Endpoint) :
    Prop :=
  ∃ before after, history = before ++ .insert entry environment endpoint :: after ∧
    ∀ other, .insert entry environment other ∉ after

def insertedName? : Change → Option String
  | .insert entry _ _ => some entry
  | .activate _ => none

/-- The entries of all insertions, one after the other. -/
def insertedNames (history : List Change) : List String := history.filterMap insertedName?

def activated? : Change → Option String
  | .insert .. => none
  | .activate environment => some environment

/-- The environment that was activated last. -/
def activeEnvironment (initial : String) (history : List Change) : String :=
  (history.filterMap activated?).getLast?.getD initial

/-- What an entry resolves to in an environment, by what is known of it. -/
inductive Known (history : List Change) (entry environment : String) :
    Except ResolveError String → Prop
  | path {endpoint : Endpoint} {href : String}
      (hlast : IsLastInsertion history entry environment endpoint)
      (hhref : endpoint.href = some href) : Known history entry environment (.ok (href ++ "/"))
  | missingHref {endpoint : Endpoint} (hlast : IsLastInsertion history entry environment endpoint)
      (hhref : endpoint.href = none) :
      Known history entry environment (.error (.missingHref entry environment))
  | unknownEnvironment (hentry : entry ∈ insertedNames history)
      (hnever : ∀ endpoint, Change.insert entry environment endpoint ∉ history) :
      Known history entry environment (.error (.unknownEnvironment entry environment))
  | unknownEntry (hentry : entry ∉ insertedNames history) :
      Known history entry environment (.error (.unknownEntry entry))

/-! ### Maps -/

section Maps

variable {m : RuntimeMap} {entry environment : String} {endpoint : Endpoint}

/-- The endpoint of an entry in an environment. -/
def endpoint? (m : RuntimeMap) (entry environment : String) : Option Endpoint :=
  (m.environments? entry).bind (·.lookup environment)

lemma map_fst_insertLast {α : Type} (key : String) (value : α) (xs : List (String × α)) :
    (insertLast key value xs).map (·.1) =
      if key ∈ xs.map (·.1) then xs.map (·.1) else xs.map (·.1) ++ [key] := by
  induction xs with
  | nil => rfl
  | cons x xs ih =>
    rw [insertLast]
    by_cases hx : x.1 = key
    · simp [hx]
    · have hne : key ≠ x.1 := Ne.symm hx
      simp only [if_neg hx, List.map_cons, ih, List.mem_cons, hne, false_or]
      split_ifs <;> rfl

lemma entryNames_insert (m : RuntimeMap) (entry environment : String) (endpoint : Endpoint) :
    (m.insert entry environment endpoint).entryNames =
      if entry ∈ m.entryNames then m.entryNames else m.entryNames ++ [entry] :=
  map_fst_insertLast entry _ m.entries

lemma environments?_insert (m : RuntimeMap) (entry environment : String) (endpoint : Endpoint)
    (name : String) : (m.insert entry environment endpoint).environments? name =
      if name = entry then some (insertLast environment endpoint ((m.environments? entry).getD []))
      else m.environments? name :=
  lookup_insertLast entry name _ m.entries

lemma endpoint?_insert (m : RuntimeMap) (entry environment : String) (endpoint : Endpoint)
    (name place : String) : endpoint? (m.insert entry environment endpoint) name place =
      if name = entry ∧ place = environment then some endpoint else endpoint? m name place := by
  rw [endpoint?, environments?_insert, endpoint?]
  by_cases hname : name = entry
  · subst hname
    rw [if_pos rfl, Option.bind_some, lookup_insertLast]
    cases m.environments? name <;> simp
  · simp [hname]

lemma environments?_ne_none : m.environments? entry ≠ none ↔ entry ∈ m.entryNames := by
  rw [RuntimeMap.environments?, Ne, lookup_eq_none_iff_notMem, not_not, RuntimeMap.entryNames]

lemma resolve_of_unknownEntry {c : RuntimeConfig} (h : c.map.environments? entry = none) :
    c.resolve entry = .error (.unknownEntry entry) := by
  rw [RuntimeConfig.resolve, h]

lemma resolve_of_unknownEnvironment {c : RuntimeConfig} (h : c.map.environments? entry ≠ none)
    (hnone : endpoint? c.map entry c.environment = none) :
    c.resolve entry = .error (.unknownEnvironment entry c.environment) := by
  obtain ⟨environments, hsome⟩ := Option.ne_none_iff_exists'.mp h
  rw [endpoint?, hsome, Option.bind_some] at hnone
  rw [RuntimeConfig.resolve, hsome]
  simp only [hnone]

lemma resolve_of_endpoint {c : RuntimeConfig}
    (h : endpoint? c.map entry c.environment = some endpoint) :
    c.resolve entry = match endpoint.href with
      | none => .error (.missingHref entry c.environment)
      | some href => .ok (href ++ "/") := by
  obtain ⟨environments, hsome, hlookup⟩ := Option.bind_eq_some_iff.mp h
  cases hhref : endpoint.href <;> simp only [RuntimeConfig.resolve, hsome, hlookup, hhref]

end Maps

/-! ### Histories -/

section Histories

variable {history : List Change} {initial entry environment name place : String}
  {endpoint last : Endpoint}

lemma changed_concat (initial : String) (history : List Change) (x : Change) :
    changed initial (history ++ [x]) = change (changed initial history) x := by
  rw [changed, List.foldl_append]
  rfl

lemma mem_insertedNames : entry ∈ insertedNames history ↔
    ∃ environment endpoint, .insert entry environment endpoint ∈ history := by
  simp only [insertedNames, List.mem_filterMap]
  constructor
  · rintro ⟨x, hx, hname⟩
    cases x with
    | insert name environment endpoint =>
      cases hname
      exact ⟨environment, endpoint, hx⟩
    | activate environment => cases hname
  · rintro ⟨environment, endpoint, hx⟩
    exact ⟨_, hx, rfl⟩

lemma insertedNames_concat (history : List Change) (x : Change) :
    insertedNames (history ++ [x]) = insertedNames history ++ (insertedName? x).toList := by
  rw [insertedNames, List.filterMap_append]
  cases x <;> rfl

lemma not_isLastInsertion_nil : ¬ IsLastInsertion [] entry environment endpoint := by
  rintro ⟨before, after, h, -⟩
  simp at h

lemma isLastInsertion_concat {x : Change} : IsLastInsertion (history ++ [x]) entry environment last ↔
    x = .insert entry environment last ∨ IsLastInsertion history entry environment last ∧
      ∀ other, x ≠ .insert entry environment other := by
  constructor
  · rintro ⟨before, after, h, hlast⟩
    rcases List.eq_nil_or_concat after with rfl | ⟨after, y, rfl⟩
    · obtain ⟨-, hx⟩ := List.append_inj' h rfl
      exact .inl (List.singleton_inj.mp hx)
    · rw [List.concat_eq_append, ← List.cons_append, ← List.append_assoc] at h
      obtain ⟨rfl, hx⟩ := List.append_inj' h rfl
      cases List.singleton_inj.mp hx
      refine .inr ⟨⟨before, after, rfl, fun other hmem => hlast other (by simp [hmem])⟩, ?_⟩
      rintro other rfl
      exact hlast other (by simp)
  · rintro (rfl | ⟨⟨before, after, rfl, hlast⟩, hx⟩)
    · exact ⟨history, [], rfl, by simp⟩
    · refine ⟨before, after ++ [x], by simp, fun other hmem => ?_⟩
      rcases List.mem_append.mp hmem with hmem | hmem
      · exact hlast other hmem
      · exact hx other (List.mem_singleton.mp hmem).symm

/-- Under every key the map holds what was inserted last. -/
lemma endpoint?_changed (initial : String) (history : List Change) :
    endpoint? (changed initial history).map entry environment = some endpoint ↔
      IsLastInsertion history entry environment endpoint := by
  induction history using List.reverseRecOn with
  | nil => simp [not_isLastInsertion_nil, changed, endpoint?, RuntimeMap.environments?,
      RuntimeMap.empty]
  | append_singleton history x ih =>
    rw [changed_concat, isLastInsertion_concat, ← ih]
    cases x with
    | insert name place e =>
      rw [change, endpoint?_insert]
      by_cases hkey : entry = name ∧ environment = place
      · obtain ⟨rfl, rfl⟩ := hkey
        simp
      · have hne : ∀ other, Change.insert name place e ≠ .insert entry environment other := by
          rintro other h
          cases h
          exact hkey ⟨rfl, rfl⟩
        simp [hkey, hne]
    | activate place => simp [change]

lemma entryNames_changed (initial : String) (history : List Change) :
    (changed initial history).map.entryNames = (insertedNames history).eraseDups := by
  induction history using List.reverseRecOn with
  | nil => rfl
  | append_singleton history x ih =>
    rw [changed_concat, insertedNames_concat, List.eraseDups_append, ← ih]
    cases x with
    | insert name place e =>
      have hmem : name ∈ (changed initial history).map.entryNames ↔ name ∈ insertedNames history := by
        rw [ih, List.mem_eraseDups]
      rw [change, entryNames_insert]
      by_cases hname : name ∈ insertedNames history
      · simp [hmem, hname, insertedName?, List.removeAll]
      · have hnew : [name].eraseDups = [name] := rfl
        simp [hmem, hname, insertedName?, List.removeAll, hnew]
    | activate place => simp [change, insertedName?, List.removeAll]

lemma environment_changed (initial : String) (history : List Change) :
    (changed initial history).environment = activeEnvironment initial history := by
  induction history using List.reverseRecOn with
  | nil => rfl
  | append_singleton history x ih =>
    rw [changed_concat]
    cases x with
    | insert name place e =>
      have hsame : (history ++ [Change.insert name place e]).filterMap activated? =
          history.filterMap activated? := by
        rw [List.filterMap_append]
        exact List.append_nil _
      rw [activeEnvironment, hsame]
      exact ih
    | activate place => simp [activeEnvironment, change, activated?]

lemma environments?_changed (initial : String) (history : List Change) :
    (changed initial history).map.environments? entry ≠ none ↔ entry ∈ insertedNames history := by
  rw [environments?_ne_none, entryNames_changed, List.mem_eraseDups]

lemma IsLastInsertion.mem (h : IsLastInsertion history entry environment endpoint) :
    Change.insert entry environment endpoint ∈ history := by
  obtain ⟨before, after, rfl, -⟩ := h
  simp

/-- What was inserted at all under a key was inserted there last at some time. -/
lemma exists_isLastInsertion (h : Change.insert entry environment endpoint ∈ history) :
    ∃ last, IsLastInsertion history entry environment last := by
  induction history using List.reverseRecOn with
  | nil => cases h
  | append_singleton history x ih =>
    by_cases hx : ∃ other, x = .insert entry environment other
    · obtain ⟨other, hx⟩ := hx
      exact ⟨other, isLastInsertion_concat.mpr (.inl hx)⟩
    · rw [not_exists] at hx
      rcases List.mem_append.mp h with h | h
      · obtain ⟨last, hlast⟩ := ih h
        exact ⟨last, isLastInsertion_concat.mpr (.inr ⟨hlast, hx⟩)⟩
      · exact absurd (List.mem_singleton.mp h).symm (hx endpoint)

lemma exists_known (history : List Change) (entry environment : String) :
    ∃ answer, Known history entry environment answer := by
  by_cases hentry : entry ∈ insertedNames history
  · by_cases hkey : ∃ endpoint, Change.insert entry environment endpoint ∈ history
    · obtain ⟨endpoint, hendpoint⟩ := hkey
      obtain ⟨last, hlast⟩ := exists_isLastInsertion hendpoint
      cases hhref : last.href with
      | none => exact ⟨_, .missingHref hlast hhref⟩
      | some href => exact ⟨_, .path hlast hhref⟩
    · exact ⟨_, .unknownEnvironment hentry (not_exists.mp hkey)⟩
  · exact ⟨_, .unknownEntry hentry⟩

lemma resolve_of_known {answer : Except ResolveError String}
    (h : Known history entry (changed initial history).environment answer) :
    (changed initial history).resolve entry = answer := by
  cases h with
  | path hlast hhref => rw [resolve_of_endpoint ((endpoint?_changed initial history).mpr hlast), hhref]
  | missingHref hlast hhref =>
    rw [resolve_of_endpoint ((endpoint?_changed initial history).mpr hlast), hhref]
  | unknownEnvironment hentry hnever =>
    refine resolve_of_unknownEnvironment ((environments?_changed initial history).mpr hentry) ?_
    by_contra hsome
    obtain ⟨endpoint, hendpoint⟩ := Option.ne_none_iff_exists'.mp hsome
    exact hnever endpoint ((endpoint?_changed initial history).mp hendpoint).mem
  | unknownEntry hentry =>
    refine resolve_of_unknownEntry ?_
    by_contra hsome
    exact hentry ((environments?_changed initial history).mp hsome)

lemma resolve_eq_iff {answer : Except ResolveError String} :
    (changed initial history).resolve entry = answer ↔
      Known history entry (changed initial history).environment answer := by
  refine ⟨?_, resolve_of_known⟩
  rintro rfl
  obtain ⟨answer, hknown⟩ := exists_known history entry (changed initial history).environment
  rwa [resolve_of_known hknown]

/-- An insertion under another key tells nothing new of an entry, unless it makes the entry known. -/
lemma Known.concat {answer : Except ResolveError String} (h : Known history entry environment answer)
    (hkey : (name, place) ≠ (entry, environment))
    (hknown : name = entry → entry ∈ insertedNames history) (e : Endpoint) :
    Known (history ++ [.insert name place e]) entry environment answer := by
  have hne : ∀ other, Change.insert name place e ≠ .insert entry environment other := by
    rintro other h
    cases h
    exact hkey rfl
  have hlater {last : Endpoint} (hlast : IsLastInsertion history entry environment last) :
      IsLastInsertion (history ++ [.insert name place e]) entry environment last :=
    isLastInsertion_concat.mpr (.inr ⟨hlast, hne⟩)
  cases h with
  | path hlast hhref => exact .path (hlater hlast) hhref
  | missingHref hlast hhref => exact .missingHref (hlater hlast) hhref
  | unknownEnvironment hentry hnever =>
    refine .unknownEnvironment ?_ fun other hmem => ?_
    · rw [insertedNames_concat]
      exact List.mem_append_left _ hentry
    · rcases List.mem_append.mp hmem with hmem | hmem
      · exact hnever other hmem
      · exact hne other (List.mem_singleton.mp hmem).symm
  | unknownEntry hentry =>
    refine .unknownEntry fun hmem => ?_
    rw [insertedNames_concat] at hmem
    rcases List.mem_append.mp hmem with hmem | hmem
    · exact hentry hmem
    · have hname : entry = name := by simpa [insertedName?] using hmem
      exact hentry (hknown hname.symm)

/-- The first insertion of an entry, where it is not for the active environment, makes the
environment what is unknown of it. -/
lemma Known.of_new (hentry : entry ∉ insertedNames history) (hplace : place ≠ environment)
    (e : Endpoint) : Known (history ++ [.insert entry place e]) entry environment
      (.error (.unknownEnvironment entry environment)) := by
  refine .unknownEnvironment ?_ fun other hmem => ?_
  · simp [insertedNames_concat, insertedName?]
  · rcases List.mem_append.mp hmem with hmem | hmem
    · exact hentry (mem_insertedNames.mpr ⟨_, _, hmem⟩)
    · cases List.mem_singleton.mp hmem
      exact hplace rfl

end Histories

/-- At any time an entry resolves to what is known of it in the environment that was activated last.
An insertion of another entry does not change that, and neither does one of a known entry in another
environment: it only makes an unknown entry one without the active environment. The entries are
listed once each in the order of their first insertions, and inserting one of them again changes
nothing in that. -/
theorem resolve_lastInsertion (initial : String) (history : List Change) :
    (changed initial history).environment = activeEnvironment initial history ∧
      (∀ entry answer, (changed initial history).resolve entry = answer ↔
        Known history entry (activeEnvironment initial history) answer) ∧
      (∀ entry name environment endpoint,
        (name, environment) ≠ (entry, activeEnvironment initial history) →
          (changed initial (history ++ [.insert name environment endpoint])).resolve entry =
            if name = entry ∧ entry ∉ insertedNames history then
              .error (.unknownEnvironment entry (activeEnvironment initial history))
            else (changed initial history).resolve entry) ∧
      (changed initial history).map.entryNames = (insertedNames history).eraseDups ∧
      ∀ entry environment endpoint, entry ∈ insertedNames history →
        (changed initial (history ++ [.insert entry environment endpoint])).map.entryNames =
          (changed initial history).map.entryNames := by
  have hactive := environment_changed initial history
  refine ⟨hactive, fun entry answer => ?_, ?_, entryNames_changed initial history, ?_⟩
  · rw [← hactive]
    exact resolve_eq_iff
  · intro entry name environment endpoint hkey
    rw [← hactive] at hkey ⊢
    have hsame : (changed initial (history ++ [.insert name environment endpoint])).environment =
        (changed initial history).environment := by
      rw [changed_concat, change]
    by_cases hnew : name = entry ∧ entry ∉ insertedNames history
    · rw [if_pos hnew]
      obtain ⟨rfl, hentry⟩ := hnew
      refine resolve_eq_iff.mpr ?_
      rw [hsame]
      exact .of_new hentry (fun hplace => hkey (by rw [hplace])) endpoint
    · rw [if_neg hnew]
      have hbefore := resolve_eq_iff.mp (rfl : (changed initial history).resolve entry = _)
      refine resolve_eq_iff.mpr ?_
      rw [hsame]
      exact hbefore.concat hkey (fun hname => not_not.mp (not_and.mp hnew hname)) endpoint
  · intro entry environment endpoint hentry
    rw [changed_concat, change, entryNames_insert, if_pos]
    rwa [entryNames_changed, List.mem_eraseDups]

/-- An endpoint that is replaced, one without an `href`, and another active environment. -/
def checkoutHistory : List Change :=
  [.insert "checkout" "prod" ⟨some "https://a", []⟩, .activate "dev", .insert "app" "dev" ⟨none, []⟩,
    .insert "checkout" "prod" ⟨some "https://b/", []⟩, .activate "prod"]

theorem resolve_lastInsertion_checkout :
    (changed "dev" checkoutHistory).resolve "checkout" = .ok "https://b//" ∧
      (changed "dev" (checkoutHistory ++ [.insert "checkout" "dev" ⟨none, []⟩])).resolve "checkout" =
        .ok "https://b//" ∧
      (changed "dev" (checkoutHistory ++ [.insert "checkout" "dev" ⟨none, []⟩])).map.entryNames =
        ["checkout", "app"] := by
  obtain ⟨-, hresolve, hother, hnames, hagain⟩ := resolve_lastInsertion "dev" checkoutHistory
  have hlast : IsLastInsertion checkoutHistory "checkout" "prod" ⟨some "https://b/", []⟩ :=
    ⟨checkoutHistory.take 3, [.activate "prod"], rfl, by simp⟩
  have hanswer := (hresolve "checkout" _).mpr (.path hlast rfl)
  have hmem : "checkout" ∈ insertedNames checkoutHistory := by decide
  refine ⟨hanswer, ?_, ?_⟩
  · rw [hother "checkout" "checkout" "dev" ⟨none, []⟩ (by decide), if_neg (by simp [hmem]), hanswer]
    decide
  · rw [hagain "checkout" "dev" ⟨none, []⟩ hmem, hnames]
    decide

/-- An insertion under another key can change an answer: the first one of an entry makes the
environment, not the entry, what is unknown. -/
theorem resolve_firstInsertion_dev :
    ("app", "dev") ≠ ("app", activeEnvironment "prod" []) ∧
      (changed "prod" []).resolve "app" = .error (.unknownEntry "app") ∧
      (changed "prod" [.insert "app" "dev" ⟨some "x", []⟩]).resolve "app" =
        .error (.unknownEnvironment "app" "prod") ∧
      (changed "prod" [.insert "app" "dev" ⟨some "x", []⟩]).resolve "app" ≠
        (changed "prod" []).resolve "app" := by
  refine ⟨by decide, rfl, rfl, ?_⟩
  rintro ⟨⟩

end PublicPath.Proofs
