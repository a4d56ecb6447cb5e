import PublicPath.Proofs.LexemeGrammar
import PublicPath.Statement.Value

/-!
# Scanning values

`ContextStep` says what one lexeme does to the context of a scan, and `Reads` what a run of lexemes
does. A value is scanned to its end exactly where a run of lexemes leaves no bracket open and the
text behind it ends the statement.
-/

namespace PublicPath.Proofs
open Text Statement

/-! ### One lexeme -/

/-- The context behind a lexeme that neither fails nor ends the statement. -/
inductive ContextStep (s : Context) (offset : Nat) (after : Option Char) : Lexeme → Context → Prop
  | comment (text : List Char) : ContextStep s offset after (.comment text) s
  | blank (c : Char) : ContextStep s offset after (.blank c) { s with previous := c }
  | regex (text : List Char) :
      ContextStep s offset after (.regex text) { s with previous := '/', significant := ')' }
  | quoted (q : Char) (text : List Char) :
      ContextStep s offset after (.quoted q text) { s with previous := q, significant := q }
  | opens {c : Char} (h : isOpener c = true) :
      ContextStep s offset after (.mark c) ⟨(c, offset) :: s.opened, c, c⟩
  | closes {c opener : Char} {place : Nat} {outer : List (Char × Nat)} (h : openerOf c = some opener)
      (hs : s.opened = (opener, place) :: outer) :
      ContextStep s offset after (.mark c) ⟨outer, c, c⟩
  | plain {c : Char} (ho : isOpener c = false) (hc : openerOf c = none)
      (hend : c = ';' → s.opened ≠ [])
      (hassign : c = '=' → s.opened = [] → isComparison s.previous after = true) :
      ContextStep s offset after (.mark c) ⟨s.opened, c, c⟩

lemma isOpener_of_openerOf {c opener : Char} (h : openerOf c = some opener) : isOpener c = false := by
  unfold openerOf at h
  split_ifs at h <;> subst c <;> rfl

lemma contextStep_of_step {s t : Context} {offset : Nat} {x : Lexeme} {after : Option Char}
    (h : s.step offset x after = .ok (some t)) : ContextStep s offset after x t := by
  cases x with
  | comment text =>
    cases h
    exact .comment text
  | blank c =>
    cases h
    exact .blank c
  | regex text =>
    cases h
    exact .regex text
  | quoted q text =>
    cases h
    exact .quoted q text
  | mark c =>
    simp only [Context.step] at h
    split at h
    · rename_i ho
      cases h
      exact .opens ho
    rename_i ho
    split at h
    · rename_i opener hc
      split at h
      · rename_i d place outer hs
        split at h
        · rename_i hd
          cases h
          subst hd
          exact .closes hc hs
        · cases h
      · cases h
    · rename_i hc
      split_ifs at h with hend hassign
      · cases h
      · cases h
        refine .plain (by simpa using ho) hc (fun hc hs => hend ⟨hc, hs⟩) (fun hc hs => ?_)
        by_contra hk
        exact hassign ⟨hc, hs, hk⟩

lemma step_of_contextStep {s t : Context} {offset : Nat} {x : Lexeme} {after : Option Char}
    (h : ContextStep s offset after x t) : s.step offset x after = .ok (some t) := by
  cases h with
  | comment => rfl
  | blank => rfl
  | regex => rfl
  | quoted => rfl
  | opens h => simp only [Context.step, h, if_true]
  | closes h hs => simp [Context.step, isOpener_of_openerOf h, h, hs]
  | plain ho hc hend hassign =>
    simp only [Context.step, ho, hc]
    rw [if_neg (by simp), if_neg (fun h => hend h.1 h.2), if_neg (by tauto)]

/-- Only a semicolon outside all brackets ends a statement. -/
theorem step_eq_none_iff {s : Context} {offset : Nat} {x : Lexeme} {after : Option Char} :
    s.step offset x after = .ok none ↔ x = .mark ';' ∧ s.opened = [] := by
  constructor
  · intro h
    cases x with
    | mark c =>
      simp only [Context.step] at h
      split at h
      · cases h
      split at h
      · split at h
        · split at h <;> cases h
        · cases h
      · split_ifs at h with hend
        · obtain ⟨rfl, hs⟩ := hend
          exact ⟨rfl, hs⟩
        · cases h
    | comment | blank | regex | quoted => cases h
  · rintro ⟨rfl, hs⟩
    have ho : isOpener ';' = false := rfl
    have hc : openerOf ';' = none := rfl
    simp [Context.step, ho, hc, hs]

/-! ### Runs of lexemes -/

/-- The text of some lexemes. -/
def textOf (xs : List Lexeme) : List Char := xs.flatMap Lexeme.text

@[simp] lemma textOf_nil : textOf [] = [] := rfl

@[simp] lemma textOf_cons (x : Lexeme) (xs : List Lexeme) : textOf (x :: xs) = x.text ++ textOf xs :=
  rfl

@[simp] lemma textOf_append (xs ys : List Lexeme) : textOf (xs ++ ys) = textOf xs ++ textOf ys :=
  List.flatMap_append

/-- Lexemes with the text `after` behind them that lead from one context to another. -/
inductive Reads (after : List Char) : Nat → Context → List Lexeme → Context → Prop
  | nil (offset : Nat) (s : Context) : Reads after offset s [] s
  | cons {offset : Nat} {s t u : Context} {x : Lexeme} {xs : List Lexeme}
      (hx : IsLexeme s.significant (textOf xs ++ after) x)
      (hstep : ContextStep s offset (textOf xs ++ after).head? x t)
      (h : Reads after (offset + byteLength x.text) t xs u) : Reads after offset s (x :: xs) u

lemma Reads.append {after : List Char} {offset : Nat} {s t u : Context} {xs ys : List Lexeme}
    (hx : Reads (textOf ys ++ after) offset s xs t)
    (hy : Reads after (offset + byteLength (textOf xs)) t ys u) :
    Reads after offset s (xs ++ ys) u := by
  induction hx with
  | nil => simpa using hy
  | cons hl hstep _ ih =>
    rw [← List.append_assoc, ← textOf_append] at hl hstep
    refine .cons hl hstep (ih ?_)
    simpa [Nat.add_assoc] using hy

/-! ### The end of a statement -/

/-- White space and comments up to the end of the source. -/
inductive IsTrivia : List Char → Prop
  | nil : IsTrivia []
  | blank {c : Char} {cs : List Char} (hc : isBlank c = true) (h : IsTrivia cs) : IsTrivia (c :: cs)
  | comment {text after : List Char} (hc : IsComment after text) (h : IsTrivia after) :
      IsTrivia (text ++ after)

/-- What may stand behind the expression of a statement. -/
inductive IsEnding : List Char → Prop
  | source : IsEnding []
  | semicolon {rest : List Char} (h : IsTrivia rest) : IsEnding (';' :: rest)

lemma checkTrailing_comment {text after : List Char} (h : IsComment after text) (offset : Nat) :
    checkTrailing offset (text ++ after) = checkTrailing (offset + byteLength text) after := by
  have hr := read_of_isComment h
  obtain ⟨c, rest, rfl⟩ := List.exists_cons_of_ne_nil (Comment.text_ne_nil hr)
  have hb : isBlank c = false := by
    cases h <;> rfl
  rw [List.cons_append] at hr ⊢
  rw [checkTrailing, if_neg (by simp [hb])]
  split <;> simp_all

lemma checkTrailing_of {cs : List Char} (h : IsTrivia cs) (offset : Nat) :
    checkTrailing offset cs = .ok () := by
  induction h generalizing offset with
  | nil => rw [checkTrailing]
  | blank hc h ih => rw [checkTrailing, if_pos hc, ih]
  | comment hc h ih => rw [checkTrailing_comment hc, ih]

/-- Other code behind the end of a statement is reported where it starts. -/
lemma checkTrailing_code {w rest : List Char} {c : Char} (hw : Blanks w) (hc : isBlank c = false)
    (hs : ¬ StartsComment (c :: rest)) (offset : Nat) :
    checkTrailing offset (w ++ c :: rest) = .error (.trailingCode (offset + byteLength w)) := by
  induction w generalizing offset with
  | nil =>
    have hr := read_eq_absent_iff.mpr hs
    rw [List.nil_append, checkTrailing, if_neg (by simp [hc])]
    split <;> simp_all
  | cons d w ih =>
    rw [List.cons_append, checkTrailing, if_pos (hw d List.mem_cons_self),
      ih fun e he => hw e (List.mem_cons_of_mem d he), byteLength_cons, Nat.add_assoc]

lemma isTrivia_of_blanks {w : List Char} (h : Blanks w) : IsTrivia w := by
  induction w with
  | nil => exact .nil
  | cons c w ih =>
    exact .blank (h c List.mem_cons_self) (ih fun d hd => h d (List.mem_cons_of_mem c hd))

lemma isTrivia_of_checkTrailing {offset : Nat} {cs : List Char}
    (h : checkTrailing offset cs = .ok ()) : IsTrivia cs := by
  fun_induction checkTrailing offset cs with
  | case1 => exact .nil
  | case2 offset c rest hb ih => exact .blank hb (ih h)
  | case3 offset c rest hb text left hr hlt ih =>
    rw [← Comment.read_append hr]
    exact .comment (isComment_of_read hr) (ih h)
  | case4 => cases h
  | case5 => cases h

/-! ### Whole values -/

lemma scanValue_nil {s : Context} (hs : s.opened = []) (offset : Nat) :
    scanValue s offset [] = .ok [] := by
  rw [scanValue, hs]

/-- A semicolon outside all brackets leaves only what stands behind it to be checked. -/
lemma scanValue_semicolon {s : Context} (hs : s.opened = []) (offset : Nat) (rest : List Char) :
    scanValue s offset (';' :: rest) = (checkTrailing (offset + 1) rest).map fun _ => [] := by
  have hm : IsLexeme s.significant rest (.mark ';') :=
    .mark rfl rfl (not_startsComment_of_ne (by decide) rest) (fun h => absurd h (by decide))
  obtain ⟨c, front, hc, hn⟩ := next_of_isLexeme hm
  cases hc
  rw [List.nil_append] at hn
  rw [scanValue]
  split
  · simp_all
  · rename_i hx
    rw [hn] at hx
    cases hx
    dsimp only
    rw [step_eq_none_iff.mpr ⟨rfl, hs⟩]
    rfl

lemma scanValue_stop {s : Context} {offset : Nat} {rest : List Char} (hs : s.opened = [])
    (h : IsTrivia rest) : scanValue s offset (';' :: rest) = .ok [] := by
  rw [scanValue_semicolon hs, checkTrailing_of h]
  rfl

lemma scanValue_cons {s t : Context} {offset : Nat} {x : Lexeme} {left : List Char}
    (hx : IsLexeme s.significant left x) (hstep : ContextStep s offset left.head? x t) :
    scanValue s offset (x.text ++ left) =
      (scanValue t (offset + byteLength x.text) left).map (x.text ++ ·) := by
  obtain ⟨c, rest, hc, hn⟩ := next_of_isLexeme hx
  rw [hc, List.cons_append, scanValue]
  split
  · simp_all
  · rename_i hy
    rw [hn] at hy
    cases hy
    dsimp only
    rw [step_of_contextStep hstep]
    simp only [hc]

/-- A literal or comment that never ends is reported where it starts. -/
lemma scanValue_unclosed {s : Context} {c q : Char} {rest : List Char}
    (h : Lexeme.next s.significant c rest = .error q) (offset : Nat) :
    scanValue s offset (c :: rest) = .error (.unterminatedLiteral q offset) := by
  rw [scanValue]
  split <;> simp_all

lemma scanValue_error {s : Context} {offset : Nat} {x : Lexeme} {left : List Char}
    {e : StatementError} (hx : IsLexeme s.significant left x)
    (hstep : s.step offset x left.head? = .error e) :
    scanValue s offset (x.text ++ left) = .error e := by
  obtain ⟨c, rest, hc, hn⟩ := next_of_isLexeme hx
  rw [hc, List.cons_append, scanValue]
  split <;> simp_all

/-- An equals sign outside all brackets that is part of no comparison is reported. -/
lemma scanValue_assignment {s : Context} {rest : List Char} (hs : s.opened = [])
    (h : isComparison s.previous rest.head? = false) (offset : Nat) :
    scanValue s offset ('=' :: rest) = .error (.chainedAssignment offset) := by
  have hx : IsLexeme s.significant rest (.mark '=') :=
    .mark rfl rfl (not_startsComment_of_ne (by decide) rest) (fun h => absurd h (by decide))
  refine scanValue_error hx ?_
  have ho : isOpener '=' = false := rfl
  have hc : openerOf '=' = none := rfl
  simp [Context.step, ho, hc, hs, h]

/-- Behind a run of lexemes the scan goes on with the text that follows. -/
lemma scanValue_textOf {after : List Char} {offset : Nat} {s t : Context} {xs : List Lexeme}
    (h : Reads after offset s xs t) : scanValue s offset (textOf xs ++ after) =
      (scanValue t (offset + byteLength (textOf xs)) after).map (textOf xs ++ ·) := by
  induction h with
  | nil offset s =>
    change scanValue s offset after = (scanValue s offset after).map id
    cases scanValue s offset after <;> rfl
  | @cons offset s t u x xs hx hstep _ ih =>
    rw [textOf_cons, List.append_assoc, scanValue_cons hx hstep, ih, byteLength_append, ← Nat.add_assoc]
    cases scanValue u (offset + byteLength x.text + byteLength (textOf xs)) after with
    | error e => rfl
    | ok text => simp [Except.map]

/-- A run of lexemes that leaves no bracket open is scanned as a value. -/
theorem scanValue_of_reads {after : List Char} {offset : Nat} {s t : Context} {xs : List Lexeme}
    (h : Reads after offset s xs t) (ht : t.opened = []) (hafter : IsEnding after) :
    scanValue s offset (textOf xs ++ after) = .ok (textOf xs) := by
  have hend : scanValue t (offset + byteLength (textOf xs)) after = .ok [] := by
    cases hafter with
    | source => exact scanValue_nil ht _
    | semicolon hrest => exact scanValue_stop ht hrest
  rw [scanValue_textOf h, hend]
  simp [Except.map]

/-- What is scanned as a value is a run of lexemes that leaves no bracket open. -/
theorem reads_of_scanValue {s : Context} {offset : Nat} {cs text : List Char}
    (h : scanValue s offset cs = .ok text) :
    ∃ xs t after, cs = textOf xs ++ after ∧ text = textOf xs ∧ Reads after offset s xs t ∧
      t.opened = [] ∧ IsEnding after := by
  fun_induction scanValue s offset cs generalizing text with
  | case1 s offset hs =>
    cases h
    exact ⟨[], s, [], rfl, rfl, .nil offset s, hs, .source⟩
  | case2 => cases h
  | case3 => cases h
  | case4 => cases h
  | case5 s offset c rest x left hx hlt behind =>
    rename_i hstep
    obtain ⟨rfl, hs⟩ := step_eq_none_iff.mp hstep
    have ha := next_append hx
    cases hc : checkTrailing behind left with
    | error e =>
      rw [hc] at h
      cases h
    | ok =>
      rw [hc] at h
      cases h
      have hending : IsEnding (c :: rest) := ha ▸ .semicolon (isTrivia_of_checkTrailing hc)
      exact ⟨[], s, c :: rest, rfl, rfl, .nil offset s, hs, hending⟩
  | case6 s offset c rest x left hx hlt behind t =>
    rename_i hstep ih
    cases hm : scanValue t behind left with
    | error e =>
      rw [hm] at h
      cases h
    | ok more =>
      rw [hm] at h
      cases h
      obtain ⟨xs, u, after, rfl, rfl, hr, hu, hend⟩ := ih hm
      refine ⟨x :: xs, u, after, ?_, rfl, ?_, hu, hend⟩
      · rw [← next_append hx, textOf_cons, List.append_assoc]
      · exact .cons (isLexeme_of_next hx) (contextStep_of_step hstep) hr

end PublicPath.Proofs
