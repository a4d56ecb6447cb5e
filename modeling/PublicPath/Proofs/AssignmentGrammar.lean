import PublicPath.Proofs.AssignmentScanning
import PublicPath.Proofs.BalancedBrackets

/-!
# Assignments as a grammar

The expression of an assignment said without a scan: its lexemes follow one another, its brackets
are balanced, and outside all brackets stand neither a semicolon nor an assignment. A source is read
as an assignment exactly where it has the parts of one, and what is read are these parts.
-/

namespace PublicPath.Proofs
open Text Statement

/-- The character that tells a regular expression from a division behind a lexeme. -/
def remembered (last : Char) : Lexeme → Char
  | .comment _ | .blank _ => last
  | .quoted q _ => q
  | .regex _ => ')'
  | .mark c => c

/-- Lexemes one after the other, where `last` is remembered from in front of them. -/
inductive Lexed (after : List Char) : Char → List Lexeme → Prop
  | nil (last : Char) : Lexed after last []
  | cons {last : Char} {x : Lexeme} {xs : List Lexeme}
      (hx : IsLexeme last (textOf xs ++ after) x) (h : Lexed after (remembered last x) xs) :
      Lexed after last (x :: xs)

def isComment : Lexeme → Bool
  | .comment _ => true
  | _ => false

/-- The last character outside comments; `first` where there is none. -/
def lastWritten (first : Char) (xs : List Lexeme) : Char :=
  (textOf (xs.filter fun x => !isComment x)).getLastD first

/-- In front of an equals sign, what makes it part of a comparison. -/
def Compares (c : Char) : Prop := c = '=' ∨ c = '!' ∨ c = '<' ∨ c = '>'

/-- The lexemes of an expression with the text `after` behind it. Outside all brackets is where the
lexemes so far are balanced. -/
structure IsExpression (xs : List Lexeme) (after : List Char) : Prop where
  lexed : Lexed after '=' xs
  balanced : Balanced xs
  no_semicolon : ∀ front back, xs = front ++ .mark ';' :: back → ¬ Balanced front
  no_assignment : ∀ front back, xs = front ++ .mark '=' :: back → Balanced front →
    Compares (lastWritten '=' front) ∨
      ∃ c, (textOf back ++ after).head? = some c ∧ (c = '=' ∨ c = '>')

/-! ### What a scan remembers -/

lemma lastWritten_append (first : Char) (xs ys : List Lexeme) :
    lastWritten first (xs ++ ys) = lastWritten (lastWritten first xs) ys := by
  simp only [lastWritten, List.filter_append, textOf_append, List.getLastD_eq_getLast?,
    List.getLast?_append]
  cases (textOf (ys.filter fun x => !isComment x)).getLast? <;> rfl

lemma compares_lastWritten {c d : Char} (h : Compares c ↔ Compares d) (xs : List Lexeme) :
    Compares (lastWritten c xs) ↔ Compares (lastWritten d xs) := by
  simp only [lastWritten, List.getLastD_eq_getLast?]
  cases (textOf (xs.filter fun x => !isComment x)).getLast? with
  | none => exact h
  | some e => rfl

lemma isComparison_iff {before : Char} {after : Option Char} : isComparison before after = true ↔
    Compares before ∨ ∃ c, after = some c ∧ (c = '=' ∨ c = '>') := by
  cases after <;> simp [isComparison, Compares, or_assoc]

lemma remembered_of_contextStep {s t : Context} {offset : Nat} {after : Option Char} {x : Lexeme}
    (h : ContextStep s offset after x t) : t.significant = remembered s.significant x := by
  cases h <;> rfl

lemma not_compares_of_isIdentifierPart {c : Char} (h : isIdentifierPart c = true) : ¬ Compares c := by
  have hne : ∀ d ∈ marks, c ≠ d := fun d hd => ne_of_isIdentifierPart h hd
  rintro (hc | hc | hc | hc)
  · exact hne '=' (by decide) hc
  · exact hne '!' (by decide) hc
  · exact hne '<' (by decide) hc
  · exact hne '>' (by decide) hc

/-- The flags of a regular expression compare as little as its slash. -/
lemma compares_of_contextStep {s t : Context} {offset : Nat} {after : List Char} {x : Lexeme}
    (hx : IsLexeme s.significant after x) (h : ContextStep s offset after.head? x t) :
    Compares t.previous ↔ Compares (lastWritten s.previous [x]) := by
  cases h with
  | comment => rfl
  | blank | opens | closes | plain => simp [lastWritten, isComment, textOf, Lexeme.text]
  | quoted q text =>
    cases hx with
    | @quoted _ body hq h =>
      have hlast : (q :: (body ++ [q])).getLast? = some q := by
        rw [← List.cons_append, List.getLast?_concat]
      simp [lastWritten, isComment, textOf, Lexeme.text, hlast]
  | regex text =>
    cases hx with
    | @regex body flags hlast h hstart hflags hafter =>
      simp only [lastWritten, isComment, textOf, Lexeme.text, List.filter_cons, Bool.not_false, if_true,
        List.filter_nil, List.flatMap_cons, List.flatMap_nil, List.append_nil,
        List.getLastD_eq_getLast?, List.getLast?_append, List.getLast?_cons]
      cases hf : flags.getLast? with
      | none => simp
      | some c =>
        have hc := not_compares_of_isIdentifierPart (hflags c (List.mem_of_getLast? hf))
        have hslash : ¬ Compares '/' := by simp [Compares]
        simp [hc, hslash]

lemma lexed_of_reads {after : List Char} {offset : Nat} {s t : Context} {xs : List Lexeme}
    (h : Reads after offset s xs t) : Lexed after s.significant xs := by
  induction h with
  | nil => exact .nil _
  | cons hx hstep _ ih =>
    rw [remembered_of_contextStep hstep] at ih
    exact .cons hx ih

/-- A text has one sequence of lexemes. -/
lemma Lexed.unique {after : List Char} {last : Char} {xs ys : List Lexeme}
    (hx : Lexed after last xs) (hy : Lexed after last ys) (h : textOf xs = textOf ys) : xs = ys := by
  induction hx generalizing ys with
  | nil =>
    cases hy with
    | nil => rfl
    | cons hl _ => simp [hl.text_ne_nil] at h
  | cons hl _ ih =>
    cases hy with
    | nil => simp [hl.text_ne_nil] at h
    | cons hl' hy =>
      rw [textOf_cons, textOf_cons] at h
      have hwhole := congrArg (· ++ after) h
      simp only [List.append_assoc] at hwhole
      obtain ⟨rfl, -⟩ := hl.unique hl' hwhole
      rw [ih hy (List.append_cancel_left h)]

lemma compares_of_reads {after : List Char} {offset : Nat} {s t : Context} {xs : List Lexeme}
    (h : Reads after offset s xs t) : Compares t.previous ↔ Compares (lastWritten s.previous xs) := by
  induction h with
  | nil => rfl
  | @cons offset s t u x xs hx hstep _ ih =>
    rw [ih, ← List.singleton_append, lastWritten_append]
    exact compares_lastWritten (compares_of_contextStep hx hstep) xs

lemma Reads.split {after : List Char} {offset : Nat} {s u : Context} {xs ys : List Lexeme}
    (h : Reads after offset s (xs ++ ys) u) :
    ∃ t, Reads (textOf ys ++ after) offset s xs t ∧
      Reads after (offset + byteLength (textOf xs)) t ys u := by
  induction xs generalizing offset s with
  | nil => exact ⟨s, .nil offset s, h⟩
  | cons x xs ih =>
    rw [List.cons_append] at h
    cases h with
    | cons hx hstep h =>
      obtain ⟨t, hfront, hback⟩ := ih h
      rw [textOf_append, List.append_assoc] at hx hstep
      refine ⟨t, .cons hx hstep hfront, ?_⟩
      simpa [Nat.add_assoc] using hback

/-! ### Scans and expressions -/

/-- A scan that leaves no bracket open goes over an expression. -/
theorem isExpression_of_reads {after : List Char} {offset : Nat} {t : Context} {xs : List Lexeme}
    (h : Reads after offset .start xs t) (ht : t.opened = []) : IsExpression xs after := by
  have hleaves := leaves_of_reads h
  rw [openersOf_eq_nil.mpr ht] at hleaves
  have houtside : ∀ {front : List Lexeme} {later : List Char} {s : Context},
      Reads later offset .start front s → Balanced front → s.opened = [] := by
    intro front later s hs hb
    exact openersOf_eq_nil.mp ((leaves_of_reads hs).unique (leaves_nil_iff.mpr hb))
  constructor
  · exact lexed_of_reads h
  · exact leaves_nil_iff.mp hleaves
  · rintro front back rfl hb
    obtain ⟨s, hfront, hback⟩ := h.split
    cases hback with
    | cons hx hstep _ =>
      cases hstep with
      | opens hc => cases hc
      | closes hc => cases hc
      | plain _ _ hend _ => exact hend rfl (houtside hfront hb)
  · rintro front back rfl hb
    obtain ⟨s, hfront, hback⟩ := h.split
    cases hback with
    | cons hx hstep _ =>
      cases hstep with
      | opens hc => cases hc
      | closes hc => cases hc
      | plain _ _ _ hassign =>
        rcases isComparison_iff.mp (hassign rfl (houtside hfront hb)) with hc | hc
        · exact .inl ((compares_of_reads hfront).mp hc)
        · exact .inr hc

/-- Where the lexemes of an expression so far were scanned, so is the next one. -/
lemma contextStep_of_isExpression {after : List Char} {front back : List Lexeme} {x : Lexeme}
    (h : IsExpression (front ++ x :: back) after) {s : Context}
    (hleaves : Leaves [] front (openersOf s))
    (hcompares : Compares s.previous ↔ Compares (lastWritten '=' front)) (offset : Nat) :
    ∃ t, ContextStep s offset (textOf back ++ after).head? x t := by
  have hb : s.opened = [] → Balanced front := by
    intro hs
    rw [openersOf_eq_nil.mpr hs] at hleaves
    exact leaves_nil_iff.mp hleaves
  cases x with
  | comment text => exact ⟨_, .comment text⟩
  | blank c => exact ⟨_, .blank c⟩
  | quoted q text => exact ⟨_, .quoted q text⟩
  | regex text => exact ⟨_, .regex text⟩
  | mark c =>
    cases ho : isOpener c with
    | true => exact ⟨_, .opens ho⟩
    | false =>
      cases hc : openerOf c with
      | none =>
        refine ⟨_, .plain ho hc ?_ ?_⟩
        · rintro rfl hs
          exact h.no_semicolon front back rfl (hb hs)
        · rintro rfl hs
          rw [isComparison_iff, hcompares]
          exact h.no_assignment front back rfl (hb hs)
      | some opener =>
        obtain ⟨stack, hfront, hback⟩ := (leaves_nil_iff.mpr h.balanced).split
        rw [hfront.unique hleaves] at hback
        generalize hstack : openersOf s = opened at hback
        cases hback with
        | other hx _ => exact absurd (isBracket_closer hc) hx
        | opens ho' _ =>
          rw [ho] at ho'
          cases ho'
        | closes hc' _ =>
          obtain ⟨⟨d, place⟩, outer, hs, rfl, -⟩ := List.map_eq_cons_iff.mp hstack
          exact ⟨_, .closes hc' hs⟩

/-- An expression is scanned from any of its lexemes on. -/
lemma reads_back_of_isExpression {after : List Char} {front back : List Lexeme}
    (h : IsExpression (front ++ back) after) {s : Context} (offset : Nat)
    (hlexed : Lexed after s.significant back) (hleaves : Leaves [] front (openersOf s))
    (hcompares : Compares s.previous ↔ Compares (lastWritten '=' front)) :
    ∃ t, Reads after offset s back t ∧ t.opened = [] := by
  induction back generalizing front s offset with
  | nil =>
    rw [List.append_nil] at h
    refine ⟨s, .nil offset s, openersOf_eq_nil.mp ?_⟩
    exact hleaves.unique (leaves_nil_iff.mpr h.balanced)
  | cons x back ih =>
    obtain ⟨t, hstep⟩ := contextStep_of_isExpression h hleaves hcompares offset
    cases hlexed with
    | cons hx hlexed =>
      rw [← List.singleton_append, ← List.append_assoc] at h
      rw [← remembered_of_contextStep hstep] at hlexed
      have hcompares' : Compares t.previous ↔ Compares (lastWritten '=' (front ++ [x])) := by
        rw [compares_of_contextStep hx hstep, lastWritten_append]
        exact compares_lastWritten hcompares [x]
      obtain ⟨u, hreads, hu⟩ := ih h (offset + byteLength x.text) hlexed
        (hleaves.append (leaves_of_contextStep hstep)) hcompares'
      exact ⟨u, .cons hx hstep hreads, hu⟩

/-- An expression is scanned from its beginning, and no bracket is left open. -/
theorem reads_of_isExpression {after : List Char} {xs : List Lexeme} (h : IsExpression xs after)
    (offset : Nat) : ∃ t, Reads after offset .start xs t ∧ t.opened = [] := by
  have hwhole : IsExpression ([] ++ xs) after := h
  exact reads_back_of_isExpression hwhole offset h.lexed (.nil []) Iff.rfl

/-- A source is read as an assignment if and only if it has the parts of one, and then the answer
is what these parts make. -/
theorem parse_eq_ok_iff (source : String) (a : Assignment) :
    Assignment.parse source = .ok a ↔ ∃ (p : Parts) (xs : List Lexeme), p.source = source.toList ∧
      p.Layout ∧ textOf xs = p.expression ∧ IsExpression xs p.ending ∧ a = p.assignment := by
  constructor
  · intro h
    obtain ⟨p, xs, t, hsource, hlayout, hxs, hreads, ht, ha⟩ := reads_of_parse h
    exact ⟨p, xs, hsource, hlayout, hxs, isExpression_of_reads hreads ht, ha⟩
  · rintro ⟨p, xs, hsource, hlayout, hxs, hexpression, rfl⟩
    obtain ⟨t, hreads, ht⟩ := reads_of_isExpression hexpression p.valueOffset
    have hparse := parse_of_reads hlayout hxs hreads ht
    rwa [hsource, String.ofList_toList] at hparse

end PublicPath.Proofs
