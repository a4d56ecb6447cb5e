import PublicPath.Proofs.LexemeGrammar
import PublicPath.Statement.Target

/-!
# Targets as a grammar

A target is an identifier and its accesses. The scanner takes exactly the targets, and it takes a
whole target wherever the text behind it can neither lengthen the last name nor begin an access.
-/

namespace PublicPath.Proofs
open Text Statement

inductive IsIdentifier : List Char → Prop
  | mk {c : Char} {cs : List Char} (hc : isIdentifierStart c = true)
      (hcs : ∀ d ∈ cs, isIdentifierPart d = true) : IsIdentifier (c :: cs)

/-- A literal on one line, or decimal digits. -/
inductive IsKey : List Char → Prop
  | quoted {q : Char} {body : List Char} (hq : q = '"' ∨ q = '\'') (h : QuotedBody q body) :
      IsKey (q :: (body ++ [q]))
  | digits {ds : List Char} (hne : ds ≠ []) (h : ∀ d ∈ ds, d.isDigit = true) : IsKey ds

/-- A dot with a name, or a key in brackets; blanks may stand in front and inside. -/
inductive IsAccess : List Char → Prop
  | member {before inside name : List Char} (hb : Blanks before) (hi : Blanks inside)
      (h : IsIdentifier name) : IsAccess (before ++ '.' :: (inside ++ name))
  | index {before front key back : List Char} (hb : Blanks before) (hf : Blanks front)
      (h : IsKey key) (hk : Blanks back) :
      IsAccess (before ++ '[' :: (front ++ key ++ back ++ [']']))

inductive IsTarget : List Char → Prop
  | mk {name : List Char} {accesses : List (List Char)} (hname : IsIdentifier name)
      (h : ∀ a ∈ accesses, IsAccess a) : IsTarget (name ++ accesses.flatten)

/-- No target goes on in the text: no character of a name is at its front, and neither a dot nor an
opening bracket is behind its blanks. -/
structure EndsTarget (after : List Char) : Prop where
  name : Stops isIdentifierPart after
  access : Stops (fun c => c == '.' || c == '[') (skipBlanks after)

/-! ### Names and keys -/

lemma IsIdentifier.part {name : List Char} (h : IsIdentifier name) :
    ∀ c ∈ name, isIdentifierPart c = true := by
  cases h with
  | @mk c cs hc hcs =>
    intro d hd
    rcases List.mem_cons.mp hd with rfl | hd
    · exact isIdentifierPart_of_isIdentifierStart hc
    · exact hcs d hd

lemma IsIdentifier.stops_isBlank {name : List Char} (h : IsIdentifier name) (after : List Char) :
    Stops isBlank (name ++ after) := by
  have hp := h.part
  cases h with
  | @mk c cs hc hcs =>
    rw [List.cons_append, stops_cons]
    exact not_isBlank_of_isIdentifierPart (hp c List.mem_cons_self)

lemma IsIdentifier.isTarget {name : List Char} (h : IsIdentifier name) : IsTarget name := by
  have hnone : IsTarget (name ++ ([] : List (List Char)).flatten) := .mk h (by simp)
  rwa [List.flatten_nil, List.append_nil] at hnone

lemma scanIdentifier_of {name after : List Char} (h : IsIdentifier name)
    (hafter : Stops isIdentifierPart after) (offset : Nat) :
    scanIdentifier offset (name ++ after) = .ok (name, after) := by
  cases h with
  | @mk c cs hc hcs =>
    rw [List.cons_append, scanIdentifier, if_pos hc, takeWhile_run hcs hafter,
      dropWhile_run hcs hafter]

lemma isIdentifier_of_scanIdentifier {offset : Nat} {cs taken left : List Char}
    (h : scanIdentifier offset cs = .ok (taken, left)) : IsIdentifier taken := by
  unfold scanIdentifier at h
  split at h
  · cases h
  · split at h
    · rename_i hc
      cases h
      exact .mk hc mem_takeWhile
    · cases h

lemma IsKey.stops_isBlank {key : List Char} (h : IsKey key) (after : List Char) :
    Stops isBlank (key ++ after) := by
  cases h with
  | @quoted q body hq h =>
    rw [List.cons_append, stops_cons]
    rcases hq with rfl | rfl <;> rfl
  | digits hne h =>
    obtain ⟨d, ds, rfl⟩ := List.exists_cons_of_ne_nil hne
    rw [List.cons_append, stops_cons]
    exact not_isBlank_of_isIdentifierPart (isIdentifierPart_of_isDigit (h d List.mem_cons_self))

lemma not_isQuote_of_isIdentifierPart {c : Char} (h : isIdentifierPart c = true) :
    isQuote c = false := by
  have h₁ : c ≠ '"' := ne_of_isIdentifierPart h (by decide)
  have h₂ : c ≠ '\'' := ne_of_isIdentifierPart h (by decide)
  have h₃ : c ≠ '`' := ne_of_isIdentifierPart h (by decide)
  simp [isQuote, h₁, h₂, h₃]

lemma scanKey_of {key after : List Char} (h : IsKey key) (hafter : Stops Char.isDigit after)
    (offset : Nat) : scanKey offset (key ++ after) = .ok (key, after) := by
  cases h with
  | @quoted q body hq h =>
    have hs : q ≠ '\\' := by rcases hq with rfl | rfl <;> decide
    rw [List.cons_append, scanKey, if_pos hq, List.append_assoc, List.singleton_append,
      closeQuoted_body hs h]
  | digits hne h =>
    obtain ⟨d, ds, rfl⟩ := List.exists_cons_of_ne_nil hne
    have hd := h d List.mem_cons_self
    have hq := not_isQuote_of_isIdentifierPart (isIdentifierPart_of_isDigit hd)
    simp only [isQuote, Bool.or_eq_false_iff, beq_eq_false_iff_ne] at hq
    rw [List.cons_append, scanKey, if_neg (by tauto), if_pos hd, ← List.cons_append,
      takeWhile_run h hafter, dropWhile_run h hafter]

lemma isKey_of_scanKey {offset : Nat} {cs taken left : List Char}
    (h : scanKey offset cs = .ok (taken, left)) : IsKey taken := by
  unfold scanKey at h
  split at h
  · cases h
  · rename_i c rest
    split at h
    · rename_i hq
      split at h
      · rename_i hc
        cases h
        obtain ⟨body, hb, rfl⟩ := closeQuoted_sound hc
        exact .quoted hq hb
      · cases h
    · split at h
      · rename_i hd
        cases h
        exact .digits (by simp [hd]) mem_takeWhile
      · cases h

/-! ### Accesses -/

lemma scanMember_of {inside name after : List Char} (hi : Blanks inside) (h : IsIdentifier name)
    (hafter : Stops isIdentifierPart after) (offset : Nat) :
    scanMember offset (inside ++ name ++ after) = .ok (inside ++ name, after) := by
  rw [List.append_assoc, scanMember, leadingBlanks_run hi (h.stops_isBlank after),
    skipBlanks_run hi (h.stops_isBlank after), scanIdentifier_of h hafter]

lemma scanIndex_of {front key back : List Char} (hf : Blanks front) (h : IsKey key)
    (hk : Blanks back) (offset : Nat) (after : List Char) :
    scanIndex offset (front ++ key ++ back ++ ']' :: after) =
      .ok (front ++ key ++ back ++ [']'], after) := by
  have hclose : Stops isBlank (']' :: after) := stops_cons.mpr (by decide)
  have hdigit : Stops Char.isDigit (back ++ ']' :: after) := by
    cases back with
    | nil => exact stops_cons.mpr (by decide)
    | cons c back =>
      rw [List.cons_append, stops_cons]
      by_contra hd
      have hc := not_isBlank_of_isIdentifierPart (isIdentifierPart_of_isDigit (by simpa using hd))
      rw [hk c List.mem_cons_self] at hc
      cases hc
  rw [List.append_assoc, List.append_assoc, scanIndex, leadingBlanks_run hf (h.stops_isBlank _),
    skipBlanks_run hf (h.stops_isBlank _), scanKey_of h hdigit]
  simp only [leadingBlanks_run hk hclose, skipBlanks_run hk hclose, List.append_assoc]

lemma scanAccess_of {access after : List Char} (h : IsAccess access)
    (hafter : Stops isIdentifierPart after) (offset : Nat) :
    scanAccess offset (access ++ after) = .ok (some (access, after)) := by
  cases h with
  | @member before inside name hb hi h =>
    have hdot : Stops isBlank ('.' :: (inside ++ name ++ after)) := stops_cons.mpr (by decide)
    rw [List.append_assoc, List.cons_append, scanAccess, leadingBlanks_run hb hdot,
      skipBlanks_run hb hdot]
    simp only [scanMember_of hi h hafter, Except.map]
  | @index before front key back hb hf h hk =>
    have hopen : Stops isBlank ('[' :: (front ++ key ++ back ++ ']' :: after)) :=
      stops_cons.mpr (by decide)
    rw [List.append_assoc, List.cons_append, List.append_assoc (front ++ key ++ back),
      List.singleton_append, scanAccess, leadingBlanks_run hb hopen, skipBlanks_run hb hopen]
    simp only [scanIndex_of hf h hk, Except.map]

lemma scanAccess_of_endsTarget {after : List Char} (h : EndsTarget after) (offset : Nat) :
    scanAccess offset after = .ok none := by
  have ha := h.access
  unfold scanAccess
  dsimp only
  split
  · rename_i hs
    rw [hs, stops_cons] at ha
    cases ha
  · rename_i hs
    rw [hs, stops_cons] at ha
    cases ha
  · rfl

lemma isAccess_of_scanAccess {offset : Nat} {cs taken left : List Char}
    (h : scanAccess offset cs = .ok (some (taken, left))) : IsAccess taken := by
  unfold scanAccess at h
  dsimp only at h
  split at h
  · rename_i rest _
    cases hm : scanMember (offset + byteLength (leadingBlanks cs) + 1) rest <;>
      simp only [hm, Except.map, reduceCtorEq, Except.ok.injEq, Option.some.injEq,
        Prod.mk.injEq] at h
    obtain ⟨rfl, rfl⟩ := h
    unfold scanMember at hm
    split at hm <;> cases hm
    rename_i hi
    exact .member (blanks_leadingBlanks cs) (blanks_leadingBlanks rest)
      (isIdentifier_of_scanIdentifier hi)
  · rename_i rest _
    cases hm : scanIndex (offset + byteLength (leadingBlanks cs) + 1) rest <;>
      simp only [hm, Except.map, reduceCtorEq, Except.ok.injEq, Option.some.injEq,
        Prod.mk.injEq] at h
    obtain ⟨rfl, rfl⟩ := h
    unfold scanIndex at hm
    split at hm
    · cases hm
    · rename_i key back hk
      dsimp only at hm
      split at hm <;> cases hm
      exact .index (blanks_leadingBlanks cs) (blanks_leadingBlanks rest) (isKey_of_scanKey hk)
        (blanks_leadingBlanks back)
  · cases h

/-- An access does not lengthen the name in front of it. -/
lemma IsAccess.stops_isIdentifierPart {access : List Char} (h : IsAccess access)
    (after : List Char) : Stops isIdentifierPart (access ++ after) := by
  have hblank : ∀ {before rest : List Char}, Blanks before → Stops isIdentifierPart rest →
      Stops isIdentifierPart (before ++ rest) := by
    intro before rest hb hr
    cases before with
    | nil => exact hr
    | cons c before => exact stops_cons.mpr (not_isIdentifierPart_of_isBlank (hb c List.mem_cons_self))
  cases h with
  | member hb hi h =>
    rw [List.append_assoc]
    exact hblank hb (stops_cons.mpr (by decide))
  | index hb hf h hk =>
    rw [List.append_assoc]
    exact hblank hb (stops_cons.mpr (by decide))

/-! ### Whole targets -/

lemma scanAccesses_error {offset : Nat} {cs : List Char} {e : StatementError}
    (h : scanAccess offset cs = .error e) : scanAccesses offset cs = .error e := by
  rw [scanAccesses]
  split <;> simp_all

lemma scanAccesses_none {offset : Nat} {cs : List Char} (h : scanAccess offset cs = .ok none) :
    scanAccesses offset cs = .ok ([], cs) := by
  rw [scanAccesses]
  split <;> simp_all

lemma scanAccesses_some {offset : Nat} {cs taken left : List Char}
    (h : scanAccess offset cs = .ok (some (taken, left))) :
    scanAccesses offset cs = (scanAccesses (offset + byteLength taken) left).map
      fun (more, left) => (taken ++ more, left) := by
  rw [scanAccesses]
  split <;> simp_all

lemma stops_accesses {accesses : List (List Char)} (h : ∀ a ∈ accesses, IsAccess a)
    {after : List Char} (hafter : Stops isIdentifierPart after) :
    Stops isIdentifierPart (accesses.flatten ++ after) := by
  cases accesses with
  | nil => exact hafter
  | cons a accesses =>
    rw [List.flatten_cons, List.append_assoc]
    exact (h a List.mem_cons_self).stops_isIdentifierPart _

lemma scanAccesses_of {accesses : List (List Char)} (h : ∀ a ∈ accesses, IsAccess a)
    {after : List Char} (hafter : EndsTarget after) (offset : Nat) :
    scanAccesses offset (accesses.flatten ++ after) = .ok (accesses.flatten, after) := by
  induction accesses generalizing offset with
  | nil => exact scanAccesses_none (scanAccess_of_endsTarget hafter offset)
  | cons a accesses ih =>
    have htail : ∀ b ∈ accesses, IsAccess b := fun b hb => h b (List.mem_cons_of_mem a hb)
    have ha := scanAccess_of (h a List.mem_cons_self) (stops_accesses htail hafter.name) offset
    rw [List.flatten_cons, List.append_assoc, scanAccesses_some ha, ih htail]
    rfl

lemma isAccess_of_scanAccesses {offset : Nat} {cs taken left : List Char}
    (h : scanAccesses offset cs = .ok (taken, left)) :
    ∃ accesses : List (List Char),
      (∀ a ∈ accesses, IsAccess a) ∧ taken = accesses.flatten ∧ taken ++ left = cs := by
  fun_induction scanAccesses offset cs generalizing taken with
  | case1 => cases h
  | case2 =>
    cases h
    exact ⟨[], by simp, rfl, rfl⟩
  | case3 offset cs access rest ha hlt ih =>
    cases hm : scanAccesses (offset + byteLength access) rest with
    | error e =>
      rw [hm] at h
      cases h
    | ok more =>
      rw [hm] at h
      cases h
      obtain ⟨accesses, hall, hflat, happ⟩ := ih hm
      refine ⟨access :: accesses, ?_, by rw [List.flatten_cons, hflat], ?_⟩
      · intro b hb
        rcases List.mem_cons.mp hb with rfl | hb
        · exact isAccess_of_scanAccess ha
        · exact hall b hb
      · rw [List.append_assoc, happ, (scanAccess_append ha).1]

/-- A target is taken whole in front of a text that ends it. -/
theorem scanTarget_of {target after : List Char} (h : IsTarget target) (hafter : EndsTarget after)
    (offset : Nat) : scanTarget offset (target ++ after) = .ok (target, after) := by
  cases h with
  | @mk name accesses hname h =>
    rw [List.append_assoc, scanTarget, scanIdentifier_of hname (stops_accesses h hafter.name)]
    dsimp only
    rw [scanAccesses_of h hafter]
    rfl

/-- What the scanner takes is a target. -/
theorem isTarget_of_scanTarget {offset : Nat} {cs target left : List Char}
    (h : scanTarget offset cs = .ok (target, left)) : IsTarget target ∧ target ++ left = cs := by
  unfold scanTarget at h
  split at h
  · cases h
  · rename_i name rest hi
    cases hm : scanAccesses (offset + byteLength name) rest with
    | error e =>
      rw [hm] at h
      cases h
    | ok more =>
      rw [hm] at h
      cases h
      obtain ⟨accesses, hall, hflat, happ⟩ := isAccess_of_scanAccesses hm
      refine ⟨?_, by rw [List.append_assoc, happ, scanIdentifier_append hi]⟩
      rw [hflat]
      exact .mk (isIdentifier_of_scanIdentifier hi) hall

end PublicPath.Proofs
