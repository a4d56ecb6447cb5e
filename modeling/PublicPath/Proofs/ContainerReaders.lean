import Mathlib.Tactic.Common
import PublicPath.Json.Reader

/-!
# Readers of containers

What the loops over members and items have read, told by what was read of each, whatever reader
reads them.
-/

namespace PublicPath.Proofs
open Json

section

variable {α β : Type} {once : Option String} {value : String → List Char → Reading α}
  {item : List Char → Reading α} {fuel : Nat} {seen : Bool} {cs rest : List Char}
  {members : List (String × α)} {items : List α}

lemma map_eq_ok_iff {ε : Type} {e : Except ε α} {g : α → β} {y : β} :
    e.map g = .ok y ↔ ∃ x, e = .ok x ∧ g x = y := by
  cases e <;> simp [Except.map]

/-- One member is read, and then the closing brace or a comma and more members. -/
lemma readMembers_succ_eq_ok_iff : readMembers once value (fuel + 1) seen cs = .ok (members, rest) ↔
    ∃ name behindName behindColon x behind, readName cs = .ok (name, behindName) ∧
      ¬ (seen ∧ once = some name) ∧ readColon behindName = .ok behindColon ∧
      value name behindColon = .ok (x, behind) ∧
      (skipSpace behind = '\x7d' :: rest ∧ members = [(name, x)] ∨
        ∃ next more, skipSpace behind = ',' :: next ∧
          readMembers once value fuel (seen || once = some name) (skipSpace next) =
            .ok (more, rest) ∧ members = (name, x) :: more) := by
  constructor
  · intro h
    rw [readMembers] at h
    split at h
    · cases h
    rename_i name behindName hname
    split at h
    · cases h
    rename_i hseen
    split at h
    · cases h
    rename_i behindColon hcolon
    split at h
    · cases h
    rename_i x behind hx
    refine ⟨name, behindName, behindColon, x, behind, hname, hseen, hcolon, hx, ?_⟩
    split at h
    · rename_i hclose
      cases h
      exact .inl ⟨hclose, rfl⟩
    · rename_i next hcomma
      obtain ⟨⟨more, left⟩, hmore, heq⟩ := map_eq_ok_iff.mp h
      cases heq
      exact .inr ⟨next, more, hcomma, hmore, rfl⟩
    · cases h
  · rintro ⟨name, behindName, behindColon, x, behind, hname, hseen, hcolon, hx,
      ⟨hclose, rfl⟩ | ⟨next, more, hcomma, hmore, rfl⟩⟩
    · simp [readMembers, hname, hseen, hcolon, hx, hclose]
    · simp only [readMembers, hname, if_neg hseen, hcolon, hx, hcomma, hmore]
      rfl

/-- A name that is refused the second time stands there once at most. -/
lemma readMembers_count {key : String}
    (h : readMembers (some key) value fuel seen cs = .ok (members, rest)) :
    (members.map (·.1)).count key + seen.toNat ≤ 1 := by
  induction fuel generalizing seen cs members with
  | zero => cases h
  | succ fuel ih =>
    obtain ⟨name, _, _, x, _, -, hseen, -, -, ⟨-, rfl⟩ | ⟨_, more, -, hmore, rfl⟩⟩ :=
      readMembers_succ_eq_ok_iff.mp h
    · by_cases hname : key = name
      · cases seen <;> simp_all
      · cases seen <;> simp [Ne.symm hname]
    · have hmore := ih hmore
      by_cases hname : key = name
      · subst hname
        cases seen <;> simp_all
      · simp_all [Ne.symm hname]

/-- An empty object, or a first member and the others. -/
lemma readObject_eq_ok_iff : readObject once value cs = .ok (members, rest) ↔
    skipSpace cs = '\x7d' :: rest ∧ members = [] ∨
      (∀ left, skipSpace cs ≠ '\x7d' :: left) ∧
        readMembers once value (skipSpace cs).length false (skipSpace cs) = .ok (members, rest) := by
  unfold readObject
  split
  · rename_i left hskip
    simp [hskip, and_comm, eq_comm]
  · rename_i hopen
    have hopen : ∀ left, ¬ skipSpace cs = '\x7d' :: left := hopen
    simp [hopen]

lemma readItems_succ_eq_ok_iff : readItems item (fuel + 1) cs = .ok (items, rest) ↔
    ∃ x behind, item cs = .ok (x, behind) ∧
      (skipSpace behind = ']' :: rest ∧ items = [x] ∨
        ∃ next more, skipSpace behind = ',' :: next ∧
          readItems item fuel next = .ok (more, rest) ∧ items = x :: more) := by
  constructor
  · intro h
    rw [readItems] at h
    split at h
    · cases h
    rename_i x behind hx
    refine ⟨x, behind, hx, ?_⟩
    split at h
    · rename_i hclose
      cases h
      exact .inl ⟨hclose, rfl⟩
    · rename_i next hcomma
      obtain ⟨⟨more, left⟩, hmore, heq⟩ := map_eq_ok_iff.mp h
      cases heq
      exact .inr ⟨next, more, hcomma, hmore, rfl⟩
    · cases h
  · rintro ⟨x, behind, hx, ⟨hclose, rfl⟩ | ⟨next, more, hcomma, hmore, rfl⟩⟩
    · simp [readItems, hx, hclose]
    · simp only [readItems, hx, hcomma, hmore]
      rfl

/-! ### What holds of every part -/

lemma readMembers_forall {P : α → Prop}
    (hvalue : ∀ {name cs x rest}, value name cs = .ok (x, rest) → P x)
    (h : readMembers once value fuel seen cs = .ok (members, rest)) : ∀ m ∈ members, P m.2 := by
  induction fuel generalizing seen cs members with
  | zero => cases h
  | succ fuel ih =>
    obtain ⟨name, _, _, x, _, -, -, -, hx, ⟨-, rfl⟩ | ⟨_, more, -, hmore, rfl⟩⟩ :=
      readMembers_succ_eq_ok_iff.mp h
    · simpa using hvalue hx
    · simpa using ⟨hvalue hx, by simpa using ih hmore⟩

lemma readObject_forall {P : α → Prop}
    (hvalue : ∀ {name cs x rest}, value name cs = .ok (x, rest) → P x)
    (h : readObject once value cs = .ok (members, rest)) : ∀ m ∈ members, P m.2 := by
  obtain ⟨-, rfl⟩ | ⟨-, hmembers⟩ := readObject_eq_ok_iff.mp h
  · simp
  · exact readMembers_forall hvalue hmembers

lemma readItems_forall {P : α → Prop} (hitem : ∀ {cs x rest}, item cs = .ok (x, rest) → P x)
    (h : readItems item fuel cs = .ok (items, rest)) : ∀ x ∈ items, P x := by
  induction fuel generalizing cs items with
  | zero => cases h
  | succ fuel ih =>
    obtain ⟨x, _, hx, ⟨-, rfl⟩ | ⟨_, more, -, hmore, rfl⟩⟩ := readItems_succ_eq_ok_iff.mp h
    · simpa using hitem hx
    · simpa using ⟨hitem hx, ih hmore⟩

lemma readArray_forall {P : α → Prop} (hitem : ∀ {cs x rest}, item cs = .ok (x, rest) → P x)
    (h : readArray item cs = .ok (items, rest)) : ∀ x ∈ items, P x := by
  unfold readArray at h
  split at h
  · cases h
    simp
  · exact readItems_forall hitem h

/-! ### Whole texts -/

lemma readWhole?_eq_ok_iff {read : List Char → Reading α} {x : α} :
    readWhole? read cs = .ok x ↔ ∃ rest, read cs = .ok (x, rest) ∧ skipSpace rest = [] := by
  unfold readWhole?
  cases read cs with
  | error e => simp
  | ok found =>
    obtain ⟨y, rest⟩ := found
    cases hspace : skipSpace rest <;> simp [hspace]

end

end PublicPath.Proofs
