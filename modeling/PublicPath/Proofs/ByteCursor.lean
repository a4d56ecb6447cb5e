import PublicPath.Proofs.ErrorPlaces
import PublicPath.Statement.Cursor

/-!
# Loops of the cursor

A loop of the cursor comes to what its turns follow. What a turn takes is at least one byte, and this
byte pays for it, so that a loop with a turn for every byte never runs out of them. The loops inside
a scanner are over runs of a class and over literals.
-/

namespace PublicPath.Proofs
open Text Statement

namespace Cursor
open Statement.Cursor

/-! ### Turns -/

section Turns

variable {source : String} {σ ρ τ : Type}

/-- A turn does what `outcome` says of the loop from here on: it is refused, or it ends the loop and
`behind` says what follows from where it ended, or it takes a part of the text and leaves the rest
of the loop to the text behind it. -/
inductive Follows (outcome : σ → Nat → List Char → Except StatementError τ)
    (behind : Nat → List Char → ρ → Except StatementError τ) (s : σ) (pos : Nat) (cs : List Char) :
    Except Halt (Turn σ ρ) → Prop
  | refused {e : StatementError} (h : outcome s pos cs = .error e) :
      Follows outcome behind s pos cs (.error (.refused e))
  | ended {result : ρ} (h : outcome s pos cs = behind pos cs result) :
      Follows outcome behind s pos cs (.ok (.ended result))
  | again {t : σ} (taken : List Char) {left : List Char} (hcs : cs = taken ++ left) (hne : taken ≠ [])
      (h : outcome s pos cs = outcome t (pos + byteLength taken) left) :
      Follows outcome behind s pos cs (.ok (.again t (pos + byteLength taken)))

variable {outcome : σ → Nat → List Char → Except StatementError τ}
  {behind : Nat → List Char → ρ → Except StatementError τ}
  {turn : σ → Nat → Except Halt (Turn σ ρ)} {turns pos : Nat} {s : σ} {cs : List Char}

lemma byteLength_pos {taken : List Char} (h : taken ≠ []) : 0 < byteLength taken := by
  obtain ⟨c, rest, rfl⟩ := List.exists_cons_of_ne_nil h
  exact Nat.add_pos_left c.utf8Size_pos _

/-- A loop whose turns follow an outcome comes to it. Given more turns than the text has bytes it
never runs out of them, and where it ends a turn is left for every byte of the text behind. -/
theorem repeatTurns_follows
    (hturn : ∀ s pos cs, StandsAt source.toList pos cs → Follows outcome behind s pos cs (turn s pos))
    (s : σ) (h : StandsAt source.toList pos cs) (hturns : byteLength cs < turns) :
    (∃ e, outcome s pos cs = .error e ∧ repeatTurns turn turns s pos = .error (.refused e)) ∨
      ∃ t last rest result left, StandsAt source.toList last rest ∧
        turn t last = .ok (.ended result) ∧ outcome s pos cs = behind last rest result ∧
        repeatTurns turn turns s pos = .ok (result, left) ∧ byteLength rest ≤ left := by
  induction turns generalizing s pos cs with
  | zero => cases hturns
  | succ turns ih =>
    have hfollows := hturn s pos cs h
    generalize hresult : turn s pos = result at hfollows
    cases hfollows with
    | refused he => exact .inl ⟨_, he, by rw [repeatTurns, hresult]⟩
    | ended he =>
      exact .inr ⟨s, pos, cs, _, turns, h, hresult, he, by rw [repeatTurns, hresult],
        Nat.le_of_lt_succ hturns⟩
    | @again t taken left hcs hne he =>
      -- What the turn takes is at least one byte, and this byte pays for it.
      subst hcs
      have hpos := byteLength_pos hne
      rw [byteLength_append] at hturns
      have hrun : repeatTurns turn (turns + 1) s pos =
          repeatTurns turn turns t (pos + byteLength taken) := by
        rw [repeatTurns, hresult]
        exact if_pos (by omega)
      rw [hrun, he]
      exact ih t h.skip (by omega)

/-- A loop inside a scanner comes to its outcome. -/
lemma within_eq {outcome : σ → Nat → List Char → Except StatementError ρ}
    (hturn : ∀ s pos cs, StandsAt source.toList pos cs →
      Follows outcome (fun _ _ => .ok) s pos cs (turn s pos))
    (h : StandsAt source.toList pos cs) :
    within source turn s pos = (outcome s pos cs).mapError .refused := by
  have hless : byteLength cs < source.utf8ByteSize + 1 := by
    have hlength := h.add_byteLength
    omega
  obtain ⟨e, he, hrun⟩ | ⟨t, last, rest, result, left, -, -, he, hrun, -⟩ :=
    repeatTurns_follows hturn s h hless
  · rw [within, hrun, he]
    rfl
  · rw [within, hrun, he]
    rfl

end Turns

/-! ### Inner loops -/

section Inner

variable {source : String} {pos start : Nat} {cs : List Char}

lemma follows_while {p : Char → Bool} (s : Unit) (h : StandsAt source.toList pos cs) :
    Follows (fun _ pos cs => .ok (pos + byteLength (cs.takeWhile p))) (fun _ _ => .ok) s pos cs
      (whileTurn source p s pos) := by
  rw [whileTurn, peek_eq h]
  cases cs with
  | nil => exact .ended rfl
  | cons c rest =>
    by_cases hc : p c = true
    · simp only [List.head?_cons, ok_bind, past_eq h, pure_eq_ok, if_pos hc]
      exact .again [c] rfl (by simp) (by simp [hc, Nat.add_assoc])
    · simp only [List.head?_cons, ok_bind, pure_eq_ok, if_neg hc]
      exact .ended (by simp [hc])

lemma skipWhile_eq {p : Char → Bool} (h : StandsAt source.toList pos cs) :
    skipWhile source p pos = .ok (pos + byteLength (cs.takeWhile p)) :=
  within_eq (fun s _ _ => follows_while s) h

/-- The byte behind what a scanner takes. -/
def placeBehind (pos : Nat) (split : List Char × List Char) : Nat :=
  pos + byteLength split.1

/-- What a loop over a literal comes to that `start` opens. -/
def closing (q : Char) (start pos : Nat) : Option (List Char × List Char) → Except StatementError Nat
  | some split => .ok (placeBehind pos split)
  | none => .error (.unterminatedLiteral q start)

lemma closing_map (q : Char) (start pos : Nat) (lead : List Char)
    (closed : Option (List Char × List Char)) :
    closing q start pos (closed.map fun (taken, left) => (lead ++ taken, left)) =
      closing q start (pos + byteLength lead) closed := by
  cases closed with
  | none => rfl
  | some split => simp [closing, placeBehind, Nat.add_assoc]

section Literal

variable {σ : Type} {verdict : σ → Char → Verdict σ}
  {close : σ → List Char → Option (List Char × List Char)} {q c : Char} {rest : List Char} {s : σ}

/-- A scanner of lists takes a literal by the same verdicts. -/
structure Takes (verdict : σ → Char → Verdict σ)
    (close : σ → List Char → Option (List Char × List Char)) : Prop where
  nil : ∀ s, close s [] = none
  single : ∀ s, close s ['\\'] = none
  escape : ∀ s c rest, close s ('\\' :: c :: rest) =
    (close s rest).map fun (taken, left) => (['\\', c] ++ taken, left)
  plain : ∀ s c rest, c ≠ '\\' → close s (c :: rest) =
    match verdict s c with
    | .closes => some ([c], rest)
    | .breaks => none
    | .goesOn t => (close t rest).map fun (taken, left) => ([c] ++ taken, left)

lemma takes_quoted (q : Char) : Takes (quotedVerdict q) fun _ => closeQuoted q := by
  refine ⟨fun _ => rfl, fun _ => rfl, fun _ _ _ => rfl, fun _ c rest hc => ?_⟩
  dsimp only
  rw [closeQuoted, quotedVerdict]
  · split_ifs <;> rfl
  · exact fun h => absurd h hc
  · exact fun _ _ h => absurd h hc

lemma takes_regex : Takes regexVerdict closeRegex := by
  refine ⟨fun _ => rfl, fun _ => rfl, fun _ _ _ => rfl, fun inClass c rest hc => ?_⟩
  rw [closeRegex, regexVerdict]
  · split_ifs <;> rfl
  · exact fun h => absurd h hc
  · exact fun _ _ h => absurd h hc

lemma follows_literal (htakes : Takes verdict close) (h : StandsAt source.toList pos cs) :
    Follows (fun s pos cs => closing q start pos (close s cs)) (fun _ _ => .ok) s pos cs
      (literalTurn source verdict q start s pos) := by
  rw [literalTurn, bump_eq h]
  cases cs with
  | nil => exact .refused (by rw [htakes.nil]; rfl)
  | cons c rest =>
    simp only [List.head?_cons, ok_bind, List.take_succ_cons, List.take_zero]
    by_cases hc : c = '\\'
    · subst hc
      have hrest : StandsAt source.toList (pos + byteLength ['\\']) rest := h.tail
      rw [if_pos rfl, bump_eq hrest, ok_bind, Nat.add_assoc, ← byteLength_append]
      cases rest with
      | nil => exact .again ['\\'] rfl (by simp) (by rw [htakes.single, htakes.nil]; rfl)
      | cons d rest =>
        refine .again ['\\', d] rfl (by simp) ?_
        rw [htakes.escape, closing_map]
    · rw [if_neg hc]
      have hplain := htakes.plain s c rest hc
      cases hverdict : verdict s c with
      | closes => exact .ended (by rw [hplain, hverdict]; rfl)
      | breaks => exact .refused (by rw [hplain, hverdict]; rfl)
      | goesOn t =>
        refine .again [c] rfl (by simp) ?_
        rw [hplain, hverdict, closing_map]

lemma quotedLiteral_eq (h : StandsAt source.toList pos (q :: rest)) :
    quotedLiteral source q pos =
      (closing q pos (pos + byteLength [q]) (closeQuoted q rest)).mapError .refused := by
  rw [quotedLiteral, bump_eq h]
  exact within_eq (fun _ _ _ => follows_literal (takes_quoted q)) h.tail

end Literal

end Inner

end Cursor

end PublicPath.Proofs
