import PublicPath.Json.Basic

/-!
# Runtime maps

The host page tells for every entry and every environment where its files are. Entries and
environments keep the order in which they were first inserted.
-/

namespace PublicPath

/-- Puts a value under a key: at the key's first place, or at the end. -/
def insertLast {α : Type} (key : String) (value : α) : List (String × α) → List (String × α)
  | [] => [(key, value)]
  | (other, old) :: rest =>
    if other = key then (key, value) :: rest else (other, old) :: insertLast key value rest

theorem lookup_cons_eq_ite {α : Type} (key other : String) (value : α) (xs : List (String × α)) :
    ((other, value) :: xs).lookup key = if key = other then some value else xs.lookup key := by
  rw [List.lookup_cons]
  by_cases h : key = other
  · simp [h]
  · simp [h, beq_eq_false_iff_ne.2 h]

theorem lookup_insertLast {α : Type} (key other : String) (value : α) (xs : List (String × α)) :
    (insertLast key value xs).lookup other =
      if other = key then some value else xs.lookup other := by
  induction xs with
  | nil => rw [insertLast, lookup_cons_eq_ite]
  | cons x xs ih =>
    rw [insertLast, lookup_cons_eq_ite other x.1]
    by_cases hx : x.1 = key
    · rw [if_pos hx, lookup_cons_eq_ite]
      by_cases ho : other = key <;> simp [ho, hx]
    · rw [if_neg hx, lookup_cons_eq_ite, ih]
      by_cases ho : other = x.1 <;> simp [ho, hx]

/-- Where the files of one entry are in one environment. -/
structure Endpoint where
  href : Option String
  /-- All other members, in the order of their names. -/
  extra : List (String × Json)

/-- Entries, environments, endpoints. -/
structure RuntimeMap where
  entries : List (String × List (String × Endpoint))

namespace RuntimeMap

def empty : RuntimeMap := ⟨[]⟩

/-- The environments of an entry. -/
def environments? (m : RuntimeMap) (entry : String) : Option (List (String × Endpoint)) :=
  m.entries.lookup entry

def insert (m : RuntimeMap) (entry environment : String) (endpoint : Endpoint) : RuntimeMap :=
  let environments := (m.environments? entry).getD []
  ⟨insertLast entry (insertLast environment endpoint environments) m.entries⟩

def entryNames (m : RuntimeMap) : List String := m.entries.map (·.1)

end RuntimeMap

end PublicPath
