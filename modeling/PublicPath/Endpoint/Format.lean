import PublicPath.Endpoint.Map

/-!
# Runtime maps as generic values

An endpoint is an object whose `href` is a text or null; its other members are kept as they are.
-/

namespace PublicPath

/-- An endpoint of its members. -/
def Endpoint.ofMembers? (members : List (String × Json)) : Option Endpoint :=
  let extra := members.filter (·.1 ≠ "href")
  match members.lookup "href" with
  | none | some .null => some ⟨none, extra⟩
  | some (.string href) => some ⟨some href, extra⟩
  | some _ => none

def Endpoint.ofJson? : Json → Option Endpoint
  | .object members => ofMembers? members
  | _ => none

/-- The `href` comes first and is left out when there is none. -/
def Endpoint.toJson (e : Endpoint) : Json :=
  match e.href with
  | some href => .object (("href", .string href) :: e.extra)
  | none => .object e.extra

/-- Applies a reader to the value of every member. -/
def mapMembers? {α β : Type} (f : α → Option β) :
    List (String × α) → Option (List (String × β))
  | [] => some []
  | (name, x) :: rest =>
    match f x, mapMembers? f rest with
    | some y, some more => some ((name, y) :: more)
    | _, _ => none

def environmentsOfJson? : Json → Option (List (String × Endpoint))
  | .object members => mapMembers? Endpoint.ofJson? members
  | _ => none

def RuntimeMap.ofJson? : Json → Option RuntimeMap
  | .object members => (mapMembers? environmentsOfJson? members).map RuntimeMap.mk
  | _ => none

def RuntimeMap.toJson (m : RuntimeMap) : Json :=
  .object <| m.entries.map fun (entry, environments) =>
    (entry, .object (environments.map fun (name, e) => (name, e.toJson)))

end PublicPath
