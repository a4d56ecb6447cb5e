import PublicPath.Proofs.AssignmentGrammar
import PublicPath.Proofs.Replacement

/-!
# Assignments without a value

White space and comments are passed over where a value is scanned, and what is left of a value is
its text without the white space around it. So a statement with nothing but white space behind its
operator is refused, while one with a comment there is an assignment whose value is the comment.
-/

namespace PublicPath.Proofs
open Text Statement

/-- White space and comments with the text `after` behind them: a line comment at their end reaches
up to a line feed there, or to the end of the source. -/
inductive IsTriviaBefore (after : List Char) : List Char → Prop
  | nil : IsTriviaBefore after []
  | blank {c : Char} {cs : List Char} (hc : isBlank c = true) (h : IsTriviaBefore after cs) :
      IsTriviaBefore after (c :: cs)
  | comment {text cs : List Char} (hc : IsComment (cs ++ after) text)
      (h : IsTriviaBefore after cs) : IsTriviaBefore after (text ++ cs)

/-- A statement with white space and comments where its value should stand. -/
structure Valueless where
  lead : List Char
  target : List Char
  gap : List Char
  filling : List Char
  ending : List Char
  blanks_lead : Blanks lead
  isTarget : IsTarget target
  blanks_gap : Blanks gap
  isTrivia : IsTriviaBefore ending filling
  isEnding : IsEnding ending

namespace Valueless

def source (s : Valueless) : String :=
  String.ofList (s.lead ++ s.target ++ s.gap ++ '=' :: (s.filling ++ s.ending))

/-- The byte behind the operator. -/
def valueOffset (s : Valueless) : Nat := byteLength (s.lead ++ s.target ++ s.gap) + 1

end Valueless

/-! ### Trivia and the blanks around them -/

lemma IsComment.of_append {cs after text : List Char} (h : IsComment (cs ++ after) text) :
    IsComment cs text := by
  cases h with
  | line hbody hafter => exact .line hbody hafter.of_append
  | block hbody => exact .block hbody

lemma IsComment.ne_nil {after text : List Char} (h : IsComment after text) : text ≠ [] := by
  cases h <;> simp

lemma IsComment.startsComment {after text : List Char} (h : IsComment after text)
    (rest : List Char) : StartsComment (text ++ rest) := by
  cases h <;> simp [StartsComment]

lemma IsTriviaBefore.isTrivia {after cs : List Char} (h : IsTriviaBefore after cs) : IsTrivia cs := by
  induction h with
  | nil => exact .nil
  | blank hc _ ih => exact .blank hc ih
  | comment hc _ ih => exact .comment hc.of_append ih

lemma isTrivia_tail {c : Char} {cs : List Char} (hc : isBlank c = true) (h : IsTrivia (c :: cs)) :
    IsTrivia cs := by
  generalize hwhole : c :: cs = whole at h
  cases h with
  | nil => cases hwhole
  | blank _ h =>
    cases hwhole
    exact h
  | comment hcomment _ =>
    -- A comment starts with a slash.
    cases hcomment <;> cases hwhole <;> cases hc

lemma isTrivia_blanks_append_iff {w cs : List Char} (hw : Blanks w) :
    IsTrivia (w ++ cs) ↔ IsTrivia cs := by
  induction w with
  | nil => rfl
  | cons c w ih =>
    have hc := hw c List.mem_cons_self
    rw [← ih fun d hd => hw d (List.mem_cons_of_mem c hd)]
    exact ⟨isTrivia_tail hc, .blank hc⟩

lemma isTrivia_concat {c : Char} {cs : List Char} (hc : isBlank c = true) (h : IsTrivia cs) :
    IsTrivia (cs ++ [c]) := by
  induction h with
  | nil => exact .blank hc .nil
  | blank hd _ ih => exact .blank hd ih
  | @comment text after hcomment _ ih =>
    rw [List.append_assoc]
    cases hcomment with
    | block hbody => exact .comment (.block hbody) ih
    | @line body hbody hafter =>
      cases after with
      | cons d after => exact .comment (.line hbody (stops_cons.mpr (stops_cons.mp hafter))) ih
      | nil =>
        -- Only a line feed does not lengthen the comment.
        by_cases hn : c = '\n'
        · subst hn
          exact .comment (.line hbody (stops_cons.mpr rfl)) ih
        · have hline : IsComment [] ('/' :: '/' :: (body ++ [c])) :=
            .line (by simp [hbody, Ne.symm hn]) hafter
          simpa using IsTrivia.comment hline .nil

lemma isTrivia_of_concat {c : Char} {whole cs : List Char} (hc : isBlank c = true)
    (h : IsTrivia whole) (hwhole : whole = cs ++ [c]) : IsTrivia cs := by
  induction h generalizing cs with
  | nil => simp at hwhole
  | @blank d rest hd _ ih =>
    cases cs with
    | nil => exact .nil
    | cons e cs =>
      rw [List.cons_append, List.cons.injEq] at hwhole
      exact .blank (hwhole.1 ▸ hd) (ih hwhole.2)
  | @comment text rest hcomment _ ih =>
    rcases List.eq_nil_or_concat rest with rfl | ⟨rest, d, rfl⟩
    · rw [List.append_nil] at hwhole
      cases hcomment with
      | @block body hbody =>
        -- The mark at the end of a block comment is no blank.
        have hlast : (['/', '*'] ++ body ++ ['*'] ++ ['/']).getLast? = (cs ++ [c]).getLast? := by
          rw [← hwhole]
          simp
        rw [List.getLast?_concat, List.getLast?_concat, Option.some.injEq] at hlast
        rw [← hlast] at hc
        cases hc
      | @line body hbody hafter =>
        rcases cs with _ | ⟨e, _ | ⟨f, front⟩⟩
        · simp at hwhole
        · simp only [List.cons_append, List.nil_append, List.cons.injEq] at hwhole
          rw [← hwhole.2.1] at hc
          cases hc
        · simp only [List.cons_append, List.cons.injEq] at hwhole
          obtain ⟨rfl, rfl, rfl⟩ := hwhole
          have hfront : '\n' ∉ front := fun hn => hbody (by simp [hn])
          simpa using IsTrivia.comment (.line hfront hafter) .nil
    · simp only [List.concat_eq_append] at hcomment ih hwhole
      rw [← List.append_assoc] at hwhole
      obtain ⟨rfl, hd⟩ := List.append_inj' hwhole rfl
      cases hd
      exact .comment hcomment.of_append (ih rfl)

/-- Blanks behind trivia make no difference. -/
lemma isTrivia_append_blanks_iff {w cs : List Char} (hw : Blanks w) :
    IsTrivia (cs ++ w) ↔ IsTrivia cs := by
  induction w generalizing cs with
  | nil => rw [List.append_nil]
  | cons c w ih =>
    have hc := hw c List.mem_cons_self
    rw [← List.singleton_append, ← List.append_assoc, ih fun d hd => hw d (List.mem_cons_of_mem c hd)]
    exact ⟨fun h => isTrivia_of_concat hc h rfl, isTrivia_concat hc⟩

lemma trim_eq_nil_iff {cs : List Char} : dropEndWhile isBlank (skipBlanks cs) = [] ↔ Blanks cs := by
  constructor
  · intro h
    obtain ⟨run, hrun, hskip⟩ := dropEndWhile_append isBlank (skipBlanks cs)
    rw [h, List.nil_append] at hskip
    intro c hc
    rw [← leadingBlanks_append_skipBlanks cs, List.mem_append] at hc
    rcases hc with hc | hc
    · exact blanks_leadingBlanks cs c hc
    · exact hrun c (hskip ▸ hc)
  · intro h
    have hskip := skipBlanks_run h stops_nil
    rw [List.append_nil] at hskip
    rw [hskip]
    rfl

lemma isTrivia_trim_iff {cs : List Char} :
    IsTrivia (dropEndWhile isBlank (skipBlanks cs)) ↔ IsTrivia cs := by
  obtain ⟨run, hrun, hskip⟩ := dropEndWhile_append isBlank (skipBlanks cs)
  rw [← isTrivia_append_blanks_iff hrun, hskip, ← isTrivia_blanks_append_iff (blanks_leadingBlanks cs),
    leadingBlanks_append_skipBlanks]

/-! ### Trivia in a scan -/

/-- A comment where a lexeme starts is this lexeme. -/
lemma IsLexeme.comment_of_startsComment {last : Char} {after : List Char} {x : Lexeme}
    (h : IsLexeme last after x) (hs : StartsComment (x.text ++ after)) :
    ∃ text, x = .comment text ∧ IsComment after text := by
  obtain ⟨c, rest, hc, hn⟩ := next_of_isLexeme h
  rw [hc] at hs
  unfold Lexeme.next at hn
  split at hn
  · rename_i hr
    cases hn
    exact ⟨_, rfl, isComment_of_read hr⟩
  · cases hn
  · rename_i hr
    exact absurd hs (read_eq_absent_iff.mp hr)

/-- What is trivia on its own is trivia in front of the text where its scan stopped. -/
lemma isTriviaBefore_of_lexed {after cs : List Char} (hcs : IsTrivia cs) {last : Char}
    {xs : List Lexeme} (h : Lexed after last xs) (hxs : textOf xs = cs) :
    IsTriviaBefore after cs := by
  induction hcs generalizing last xs with
  | nil => exact .nil
  | @blank c cs hc _ ih =>
    cases h with
    | nil => cases hxs
    | @cons _ x xs hx h =>
      have hblank : IsLexeme last (cs ++ after) (.blank c) := .blank hc
      obtain ⟨rfl, -⟩ := hx.unique hblank (by
        rw [← List.append_assoc, ← textOf_cons, hxs]
        rfl)
      exact .blank hc (ih h (List.cons.inj hxs).2)
  | @comment text cs hcomment _ ih =>
    cases h with
    | nil => exact absurd (List.append_eq_nil_iff.mp hxs.symm).1 hcomment.ne_nil
    | @cons _ x xs hx h =>
      have hstart : StartsComment (x.text ++ (textOf xs ++ after)) := by
        rw [← List.append_assoc, ← textOf_cons, hxs, List.append_assoc]
        exact hcomment.startsComment _
      obtain ⟨text', rfl, htext⟩ := hx.comment_of_startsComment hstart
      -- Both are the comment at the front of the whole text.
      have hread := read_of_isComment htext.of_append
      rw [show text' ++ textOf xs = text ++ cs from hxs, read_of_isComment hcomment] at hread
      cases hread
      exact .comment htext (ih h rfl)

lemma readsText_trivia {after cs : List Char} (h : IsTriviaBefore after cs) (offset : Nat)
    (s : Context) : ∃ t, ReadsText after offset s cs t ∧ t.opened = s.opened := by
  induction h generalizing offset s with
  | nil => exact ⟨s, readsText_nil after offset s, rfl⟩
  | @blank c cs hc _ ih =>
    obtain ⟨t, hread, hopened⟩ := ih (offset + byteLength [c]) { s with previous := c }
    have hone : ReadsText (cs ++ after) offset s [c] { s with previous := c } :=
      readsText_lexeme (.blank hc) (.blank c)
    exact ⟨t, hone.append hread, hopened⟩
  | @comment text cs hc _ ih =>
    obtain ⟨t, hread, hopened⟩ := ih (offset + byteLength text) s
    have hone : ReadsText (cs ++ after) offset s text s :=
      readsText_lexeme (.comment hc) (.comment text)
    exact ⟨t, hone.append hread, hopened⟩

lemma IsTriviaBefore.operator {filling ending : List Char} (h : IsTriviaBefore ending filling)
    (hending : IsEnding ending) : Stops (fun c => c == '=' || c == '>') (filling ++ ending) := by
  cases h with
  | nil =>
    cases hending with
    | source => exact stops_nil
    | semicolon => exact stops_cons.mpr rfl
  | blank hc _ => exact stops_operator_of_isBlank hc _
  | comment hc _ => cases hc <;> exact stops_cons.mpr rfl

/-! ### Statements -/

namespace Valueless

variable (s : Valueless)

lemma parse_source : Assignment.parse s.source = ofScanned s.lead s.target s.gap s.filling := by
  obtain ⟨t, ⟨xs, hxs, hreads⟩, hopened⟩ :=
    readsText_trivia s.isTrivia (byteLength (s.lead ++ s.target ++ s.gap) + 1) .start
  have hscan := scanValue_of_reads hreads hopened s.isEnding
  rw [hxs] at hscan
  rw [source, parse_eq_bind s.blanks_lead s.isTarget s.blanks_gap
    (s.isTrivia.operator s.isEnding), hscan]
  rfl

lemma parse_of_blanks (h : Blanks s.filling) :
    Assignment.parse s.source = .error (.emptyValue s.valueOffset) := by
  rw [parse_source, ofScanned, if_pos (trim_eq_nil_iff.mpr h)]
  rfl

lemma parse_of_not_blanks (h : ¬ Blanks s.filling) :
    ∃ a, Assignment.parse s.source = .ok a ∧ a.target = String.ofList s.target ∧
      a.value = String.ofList (dropEndWhile isBlank (skipBlanks s.filling)) := by
  rw [parse_source, ofScanned, if_neg (mt trim_eq_nil_iff.mp h)]
  exact ⟨_, rfl, rfl, rfl⟩

end Valueless

/-- An accepted value of white space and comments alone is what the statement has in place of one. -/
lemma exists_valueless {source : String} {a : Assignment} (h : Assignment.parse source = .ok a)
    (hvalue : IsTrivia a.value.toList) : ∃ s : Valueless, s.source = source ∧ ¬ Blanks s.filling := by
  obtain ⟨p, xs, t, hsource, hlayout, hxs, hreads, -, rfl⟩ := reads_of_parse h
  have htrivia : IsTrivia p.expression := by
    rw [Parts.expression, isTrivia_append_blanks_iff hlayout.behind,
      isTrivia_blanks_append_iff hlayout.before]
    simpa [Parts.assignment] using hvalue
  refine ⟨⟨p.lead, p.target, p.gap, p.expression, p.ending, hlayout.lead, hlayout.target, hlayout.gap,
    isTriviaBefore_of_lexed htrivia (lexed_of_reads hreads) hxs, hlayout.ending⟩, ?_, fun hblanks => ?_⟩
  · change String.ofList p.source = source
    rw [hsource, String.ofList_toList]
  · obtain ⟨c, rest, hc⟩ := List.exists_cons_of_ne_nil hlayout.value_ne_nil
    have hfront := hlayout.value_front
    rw [hc, stops_cons] at hfront
    have hblank : isBlank c = true := hblanks c (by simp [Parts.expression, hc])
    rw [hfront] at hblank
    cases hblank

/-- A source is an assignment without a value exactly if a comment stands behind its operator and
nothing but white space around it, and a replacement takes it for an assignment. Where there is only
white space, the value is missing. -/
theorem parse_valueless (source : String) :
    ((∃ a, Assignment.parse source = .ok a ∧ IsTrivia a.value.toList) ↔
      ∃ s : Valueless, s.source = source ∧ ¬ Blanks s.filling) ∧
    ∀ s : Valueless, s.source = source →
      (Blanks s.filling → Assignment.parse source = .error (.emptyValue s.valueOffset)) ∧
      (¬ Blanks s.filling → ∀ c : InitializerCall,
        c.replace source = .ok (c.assignTo (String.ofList s.target))) := by
  constructor
  · constructor
    · rintro ⟨a, hparse, hvalue⟩
      exact exists_valueless hparse hvalue
    · rintro ⟨s, rfl, hblanks⟩
      obtain ⟨a, hparse, -, hvalue⟩ := s.parse_of_not_blanks hblanks
      refine ⟨a, hparse, ?_⟩
      rw [hvalue, String.toList_ofList, isTrivia_trim_iff]
      exact s.isTrivia.isTrivia
  · rintro s rfl
    refine ⟨s.parse_of_blanks, fun hblanks c => ?_⟩
    obtain ⟨a, hparse, htarget, -⟩ := s.parse_of_not_blanks hblanks
    rw [← htarget]
    exact replace_of_parse hparse c

/-- A comment is taken for a value, and replaced as one. -/
theorem comment_as_value :
    IsTarget ['x'] ∧ IsTrivia "/* c */".toList ∧
      Assignment.parse "x = /* c */;" = .ok ⟨"x", "/* c */", ⟨0, 1⟩, ⟨4, 11⟩⟩ ∧
      InitializerCall.replace ⟨"setPath", "checkout"⟩ "x = /* c */;" =
        .ok "x = setPath('checkout');" ∧
      Assignment.parse "x = ;" = .error (.emptyValue 3) := by
  have hx : IsIdentifier ['x'] := .mk rfl (by simp)
  have htrivia : checkTrailing 0 "/* c */".toList = .ok () := by
    decide +kernel
  refine ⟨hx.isTarget, isTrivia_of_checkTrailing htrivia, ?_, ?_, ?_⟩ <;> decide +kernel

end PublicPath.Proofs
