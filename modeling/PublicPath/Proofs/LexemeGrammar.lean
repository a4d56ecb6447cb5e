import PublicPath.Proofs.CharacterClasses

/-!
# Lexemes as a grammar

The forms of comments, quoted literals, regular expressions and lexemes, said without a scanner.
A form may look at the text behind it, since a line comment and the flags of a regular expression
go on as far as they can. Each scanner takes exactly the texts of its form.
-/

namespace PublicPath.Proofs
open Text Statement

/-! ### Forms -/

/-- What a literal holds between its quotes: escapes, and other characters than the quote. Only a
template holds a raw line feed. -/
inductive QuotedBody (q : Char) : List Char → Prop
  | nil : QuotedBody q []
  | escape (c : Char) {body : List Char} (h : QuotedBody q body) : QuotedBody q ('\\' :: c :: body)
  | plain {c : Char} {body : List Char} (hq : c ≠ q) (hs : c ≠ '\\') (hn : c = '\n' → q = '`')
      (h : QuotedBody q body) : QuotedBody q (c :: body)

/-- What a character class holds between its brackets. -/
inductive ClassBody : List Char → Prop
  | nil : ClassBody []
  | escape (c : Char) {body : List Char} (h : ClassBody body) : ClassBody ('\\' :: c :: body)
  | plain {c : Char} {body : List Char} (hb : c ≠ ']') (hs : c ≠ '\\') (hn : c ≠ '\n')
      (h : ClassBody body) : ClassBody (c :: body)

/-- What a regular expression holds between its slashes: escapes, character classes, and other
characters than the slash. -/
inductive RegexBody : List Char → Prop
  | nil : RegexBody []
  | escape (c : Char) {body : List Char} (h : RegexBody body) : RegexBody ('\\' :: c :: body)
  | plain {c : Char} {body : List Char} (hb : c ≠ '[') (hc : c ≠ '/') (hs : c ≠ '\\') (hn : c ≠ '\n')
      (h : RegexBody body) : RegexBody (c :: body)
  | charClass {members body : List Char} (hm : ClassBody members) (h : RegexBody body) :
      RegexBody ('[' :: (members ++ ']' :: body))

/-- The text opens a comment. -/
def StartsComment (cs : List Char) : Prop :=
  ['/', '/'] <+: cs ∨ ['/', '*'] <+: cs

/-- A comment, with the text `after` behind it. -/
inductive IsComment (after : List Char) : List Char → Prop
  | line {body : List Char} (hbody : '\n' ∉ body) (hafter : Stops (· ≠ '\n') after) :
      IsComment after ('/' :: '/' :: body)
  | block {body : List Char} (hbody : ¬ ['*', '/'] <:+: body) :
      IsComment after ('/' :: '*' :: (body ++ ['*', '/']))

/-- A lexeme with the text `after` behind it, where `last` tells a regular expression from a
division. -/
inductive IsLexeme (last : Char) (after : List Char) : Lexeme → Prop
  | comment {text : List Char} (h : IsComment after text) : IsLexeme last after (.comment text)
  | blank {c : Char} (h : isBlank c = true) : IsLexeme last after (.blank c)
  | quoted {q : Char} {body : List Char} (hq : isQuote q = true) (h : QuotedBody q body) :
      IsLexeme last after (.quoted q (q :: (body ++ [q])))
  | regex {body flags : List Char} (hlast : startsOperand last = true) (h : RegexBody body)
      (hstart : ¬ StartsComment ('/' :: (body ++ ['/'])))
      (hflags : ∀ c ∈ flags, isIdentifierPart c = true) (hafter : Stops isIdentifierPart after) :
      IsLexeme last after (.regex ('/' :: (body ++ '/' :: flags)))
  | mark {c : Char} (hb : isBlank c = false) (hq : isQuote c = false)
      (hstart : ¬ StartsComment (c :: after)) (hregex : c = '/' → startsOperand last = false) :
      IsLexeme last after (.mark c)

/-! ### Scanners -/

lemma closeQuoted_body {q : Char} (hq : q ≠ '\\') {body : List Char} (h : QuotedBody q body)
    (left : List Char) : closeQuoted q (body ++ q :: left) = some (body ++ [q], left) := by
  induction h with
  | nil =>
    rw [List.nil_append, closeQuoted.eq_def]
    split <;> simp_all
  | escape c h ih => simp [closeQuoted, ih]
  | plain hc hs hn h ih =>
    rw [List.cons_append, closeQuoted]
    · rw [if_neg hc, if_neg (by tauto), ih]
      rfl
    · simp
    · intro d rest hd
      exact absurd hd hs

/-- A character that is not the end of a text and opens no pair with what follows is no backslash. -/
lemma ne_backslash {c : Char} {cs : List Char} (hnil : c = '\\' → cs ≠ [])
    (hpair : ∀ d rest, c = '\\' → cs ≠ d :: rest) : c ≠ '\\' := by
  intro hc
  cases cs with
  | nil => exact hnil hc rfl
  | cons d rest => exact hpair d rest hc rfl

lemma closeQuoted_sound {q : Char} {cs taken left : List Char}
    (h : closeQuoted q cs = some (taken, left)) :
    ∃ body, QuotedBody q body ∧ taken = body ++ [q] := by
  fun_induction closeQuoted q cs generalizing taken with
  | case1 => cases h
  | case2 => cases h
  | case3 c rest ih =>
    simp only [Option.map_eq_some_iff, Prod.mk.injEq, Prod.exists] at h
    obtain ⟨t, l, ht, rfl, rfl⟩ := h
    obtain ⟨body, hb, rfl⟩ := ih ht
    exact ⟨'\\' :: c :: body, .escape c hb, rfl⟩
  | case4 => exact ⟨[], .nil, by simp_all⟩
  | case5 => cases h
  | case6 c rest hne hesc hc hn ih =>
    simp only [Option.map_eq_some_iff, Prod.mk.injEq, Prod.exists] at h
    obtain ⟨t, l, ht, rfl, rfl⟩ := h
    obtain ⟨body, hb, rfl⟩ := ih ht
    exact ⟨c :: body, .plain hc (ne_backslash hne hesc) (by tauto) hb, rfl⟩

lemma closeRegex_class {members : List Char} (h : ClassBody members) (rest : List Char) :
    closeRegex true (members ++ ']' :: rest) =
      (closeRegex false rest).map fun (taken, left) => (members ++ ']' :: taken, left) := by
  induction h with
  | nil => simp [closeRegex, classAfter]
  | escape c h ih =>
    simp only [List.cons_append, closeRegex, ih, Option.map_map]
    rfl
  | @plain c body hb hs hn h ih =>
    rw [List.cons_append, closeRegex]
    · have hc : classAfter true c = true := by simp [classAfter, hb]
      rw [if_neg (by simp), if_neg hn, hc, ih, Option.map_map]
      rfl
    · simp
    · intro d rest hd
      exact absurd hd hs

lemma closeRegex_body {body : List Char} (h : RegexBody body) (left : List Char) :
    closeRegex false (body ++ '/' :: left) = some (body ++ ['/'], left) := by
  induction h with
  | nil => simp [closeRegex]
  | escape c h ih => simp [closeRegex, ih]
  | @plain c body hb hc hs hn h ih =>
    rw [List.cons_append, closeRegex]
    · have hk : classAfter false c = false := by simp [classAfter, hb]
      rw [if_neg (by tauto), if_neg hn, hk, ih]
      rfl
    · simp
    · intro d rest hd
      exact absurd hd hs
  | @charClass members body hm h ih =>
    have ho : classAfter false '[' = true := rfl
    rw [List.cons_append, closeRegex, if_neg (by decide), if_neg (by decide), ho, List.append_assoc,
      List.cons_append, closeRegex_class hm, ih]
    · simp
    · simp
    · intro d rest hd
      exact absurd hd (by decide)

/-- The rest of a regular expression's body, from inside a character class or outside of one. -/
def RegexRest (inClass : Bool) (rest : List Char) : Prop :=
  if inClass then ∃ members body, ClassBody members ∧ RegexBody body ∧ rest = members ++ ']' :: body
  else RegexBody rest

lemma regexRest_escape {inClass : Bool} {rest : List Char} (h : RegexRest inClass rest) (c : Char) :
    RegexRest inClass ('\\' :: c :: rest) := by
  cases inClass with
  | false => exact RegexBody.escape c h
  | true =>
    obtain ⟨members, body, hm, hb, rfl⟩ := h
    exact ⟨'\\' :: c :: members, body, .escape c hm, hb, rfl⟩

lemma regexRest_cons {inClass : Bool} {c : Char} {rest : List Char}
    (h : RegexRest (classAfter inClass c) rest) (hs : c ≠ '\\') (hn : c ≠ '\n')
    (hc : ¬ (c = '/' ∧ inClass = false)) : RegexRest inClass (c :: rest) := by
  cases inClass with
  | false =>
    by_cases ho : c = '['
    · subst ho
      obtain ⟨members, body, hm, hb, rfl⟩ := h
      exact RegexBody.charClass hm hb
    · have hk : classAfter false c = false := by simp [classAfter, ho]
      rw [hk] at h
      exact RegexBody.plain ho (by tauto) hs hn h
  | true =>
    by_cases ho : c = ']'
    · subst ho
      exact ⟨[], rest, .nil, h, rfl⟩
    · have hk : classAfter true c = true := by simp [classAfter, ho]
      rw [hk] at h
      obtain ⟨members, body, hm, hb, rfl⟩ := h
      exact ⟨c :: members, body, .plain ho hs hn hm, hb, rfl⟩

lemma closeRegex_sound {inClass : Bool} {cs taken left : List Char}
    (h : closeRegex inClass cs = some (taken, left)) :
    ∃ rest, RegexRest inClass rest ∧ taken = rest ++ ['/'] := by
  fun_induction closeRegex inClass cs generalizing taken with
  | case1 => cases h
  | case2 => cases h
  | case3 inClass c rest ih =>
    simp only [Option.map_eq_some_iff, Prod.mk.injEq, Prod.exists] at h
    obtain ⟨t, l, ht, rfl, rfl⟩ := h
    obtain ⟨body, hb, rfl⟩ := ih ht
    exact ⟨'\\' :: c :: body, regexRest_escape hb c, rfl⟩
  | case4 inClass c rest hne hesc hc =>
    obtain ⟨rfl, rfl⟩ := hc
    cases h
    exact ⟨[], RegexBody.nil, rfl⟩
  | case5 => cases h
  | case6 inClass c rest hne hesc hc hn ih =>
    simp only [Option.map_eq_some_iff, Prod.mk.injEq, Prod.exists] at h
    obtain ⟨t, l, ht, rfl, rfl⟩ := h
    obtain ⟨body, hb, rfl⟩ := ih ht
    exact ⟨c :: body, regexRest_cons hb (ne_backslash hne hesc) hn hc, rfl⟩

lemma closeBlock_body {body : List Char} (h : ¬ ['*', '/'] <:+: body) (left : List Char) :
    closeBlock (body ++ '*' :: '/' :: left) = some (body ++ ['*', '/'], left) := by
  induction body with
  | nil => rfl
  | cons c body ih =>
    have hb : ¬ ['*', '/'] <:+: body := fun hi => h (List.infix_cons hi)
    rw [List.cons_append, closeBlock]
    · rw [ih hb]
      rfl
    · rintro rest rfl hr
      cases body with
      | nil => cases hr
      | cons d body =>
        cases hr
        exact h ⟨[], body, rfl⟩

lemma closeBlock_sound {cs taken left : List Char} (h : closeBlock cs = some (taken, left)) :
    ∃ body, ¬ ['*', '/'] <:+: body ∧ taken = body ++ ['*', '/'] := by
  fun_induction closeBlock cs generalizing taken with
  | case1 => cases h
  | case2 =>
    cases h
    exact ⟨[], by simp, rfl⟩
  | case3 c rest hne ih =>
    simp only [Option.map_eq_some_iff, Prod.mk.injEq, Prod.exists] at h
    obtain ⟨t, l, ht, rfl, rfl⟩ := h
    obtain ⟨body, hb, rfl⟩ := ih ht
    refine ⟨c :: body, ?_, rfl⟩
    rw [List.infix_cons_iff]
    rintro (hp | hi)
    · obtain ⟨tail, htail⟩ := hp
      simp only [List.cons_append, List.nil_append, List.cons.injEq] at htail
      obtain ⟨rfl, rfl⟩ := htail
      have hr := closeBlock_append ht
      exact hne _ rfl hr.symm
    · exact hb hi

lemma read_of_isComment {text after : List Char} (h : IsComment after text) :
    Comment.read (text ++ after) = .closed text after := by
  cases h with
  | @line body hbody hafter =>
    have hrun : ∀ c ∈ body, decide (c ≠ '\n') = true := by
      intro c hc
      simp only [ne_eq, decide_eq_true_eq]
      rintro rfl
      exact hbody hc
    rw [List.cons_append, List.cons_append, Comment.read, takeWhile_run hrun hafter,
      dropWhile_run hrun hafter]
  | @block body hbody =>
    simp only [List.cons_append, List.append_assoc, List.nil_append]
    rw [Comment.read, closeBlock_body hbody]

lemma isComment_of_read {cs text rest : List Char} (h : Comment.read cs = .closed text rest) :
    IsComment rest text := by
  unfold Comment.read at h
  split at h
  · rename_i body
    cases h
    refine .line (fun hn => ?_) (stops_dropWhile _ body)
    simpa using mem_takeWhile _ hn
  · rename_i body
    split at h
    · rename_i hc
      cases h
      obtain ⟨inner, hi, rfl⟩ := closeBlock_sound hc
      exact .block hi
    · cases h
  · cases h

lemma read_eq_absent_iff {cs : List Char} : Comment.read cs = .absent ↔ ¬ StartsComment cs := by
  unfold Comment.read StartsComment
  split
  · simp
  · split <;> simp
  · rename_i hline hblock
    simp only [true_iff, not_or]
    constructor
    · rintro ⟨rest, rfl⟩
      exact hline rest rfl
    · rintro ⟨rest, rfl⟩
      exact hblock rest rfl

lemma startsComment_slash {c : Char} {cs : List Char} (h : StartsComment (c :: cs)) : c = '/' := by
  rcases h with h | h
  · exact (List.cons_prefix_cons.mp h).1.symm
  · exact (List.cons_prefix_cons.mp h).1.symm

lemma not_startsComment_of_ne {c : Char} (h : c ≠ '/') (cs : List Char) : ¬ StartsComment (c :: cs) :=
  fun hs => h (startsComment_slash hs)

/-- Only the first two characters say whether a text opens a comment. -/
lemma startsComment_congr {c d : Char} (cs ds : List Char) :
    StartsComment (c :: d :: cs) ↔ StartsComment (c :: d :: ds) := by
  simp [StartsComment]

lemma isQuote_ne_slash {q : Char} (h : isQuote q = true) : q ≠ '/' ∧ q ≠ '\\' := by
  simp only [isQuote, Bool.or_eq_true, beq_iff_eq] at h
  rcases h with (rfl | rfl) | rfl <;> decide

lemma isQuote_not_isBlank {q : Char} (h : isQuote q = true) : isBlank q = false := by
  simp only [isQuote, Bool.or_eq_true, beq_iff_eq] at h
  rcases h with (rfl | rfl) | rfl <;> rfl

/-- Without a slash no regular expression ends. -/
lemma closeRegex_eq_none {cs : List Char} (h : '/' ∉ cs) (inClass : Bool) :
    closeRegex inClass cs = none := by
  fun_induction closeRegex inClass cs with
  | case1 => rfl
  | case2 => rfl
  | case3 inClass c rest ih =>
    rw [ih fun hr => h (by simp [hr])]
    rfl
  | case4 inClass c rest _ _ hc => exact absurd (by simp [hc.1]) h
  | case5 => rfl
  | case6 inClass c rest _ _ _ _ ih =>
    rw [ih fun hr => h (by simp [hr])]
    rfl

/-- The scanner takes a lexeme off the front of a text. -/
theorem next_of_isLexeme {last : Char} {after : List Char} {x : Lexeme} (h : IsLexeme last after x) :
    ∃ c rest, x.text = c :: rest ∧ Lexeme.next last c (rest ++ after) = .ok (x, after) := by
  cases h with
  | @comment text h =>
    have hr := read_of_isComment h
    obtain ⟨c, rest, rfl⟩ := List.exists_cons_of_ne_nil (Comment.text_ne_nil hr)
    refine ⟨c, rest, rfl, ?_⟩
    rw [Lexeme.next, ← List.cons_append, hr]
  | @blank c h =>
    have hc : Comment.read (c :: after) = .absent := by
      rw [read_eq_absent_iff]
      apply not_startsComment_of_ne
      rintro rfl
      cases h
    refine ⟨c, [], rfl, ?_⟩
    rw [Lexeme.next, List.nil_append, hc]
    simp [h]
  | @quoted q body hq h =>
    have hc : Comment.read (q :: (body ++ [q] ++ after)) = .absent := by
      rw [read_eq_absent_iff]
      exact not_startsComment_of_ne (isQuote_ne_slash hq).1 _
    refine ⟨q, body ++ [q], rfl, ?_⟩
    rw [Lexeme.next, hc]
    dsimp only
    rw [if_neg (by simp [isQuote_not_isBlank hq]), if_neg (by simp [(isQuote_ne_slash hq).1]),
      if_pos hq, List.append_assoc, List.singleton_append,
      closeQuoted_body (isQuote_ne_slash hq).2 h]
  | @regex body flags hlast h hstart hflags hafter =>
    have hc : Comment.read ('/' :: (body ++ '/' :: flags ++ after)) = .absent := by
      rw [read_eq_absent_iff]
      intro hs
      cases body with
      | nil => exact hstart (.inl (List.prefix_rfl))
      | cons c body => exact hstart ((startsComment_congr _ _).mp hs)
    refine ⟨'/', body ++ '/' :: flags, rfl, ?_⟩
    rw [Lexeme.next, hc]
    dsimp only
    rw [if_neg (by decide), if_pos ⟨rfl, hlast⟩, List.append_assoc, List.cons_append,
      closeRegex_body h]
    simp [takeWhile_run hflags hafter, dropWhile_run hflags hafter]
  | @mark c hb hq hstart hregex =>
    refine ⟨c, [], rfl, ?_⟩
    rw [Lexeme.next, List.nil_append, read_eq_absent_iff.mpr hstart]
    dsimp only
    rw [if_neg (by simp [hb]), if_neg (by rintro ⟨rfl, hs⟩; simp [hregex rfl] at hs),
      if_neg (by simp [hq])]

lemma IsLexeme.text_ne_nil {last : Char} {after : List Char} {x : Lexeme}
    (h : IsLexeme last after x) : x.text ≠ [] := by
  obtain ⟨c, rest, hc, -⟩ := next_of_isLexeme h
  simp [hc]

/-- A text has one lexeme at its front. -/
lemma IsLexeme.unique {last : Char} {after after' : List Char} {x y : Lexeme}
    (hx : IsLexeme last after x) (hy : IsLexeme last after' y)
    (h : x.text ++ after = y.text ++ after') : x = y ∧ after = after' := by
  obtain ⟨c, rest, hxc, hxn⟩ := next_of_isLexeme hx
  obtain ⟨d, rest', hyd, hyn⟩ := next_of_isLexeme hy
  rw [hxc, hyd, List.cons_append, List.cons_append, List.cons.injEq] at h
  obtain ⟨rfl, hrest⟩ := h
  rw [hrest, hyn] at hxn
  cases hxn
  exact ⟨rfl, rfl⟩

/-- What the scanner takes is a lexeme. -/
theorem isLexeme_of_next {last c : Char} {rest left : List Char} {x : Lexeme}
    (h : Lexeme.next last c rest = .ok (x, left)) : IsLexeme last left x := by
  unfold Lexeme.next at h
  split at h
  · rename_i hc
    cases h
    exact .comment (isComment_of_read hc)
  · cases h
  · rename_i hc
    rw [read_eq_absent_iff] at hc
    split at h
    · rename_i hb
      cases h
      exact .blank hb
    rename_i hb
    split at h
    · rename_i hs
      obtain ⟨rfl, hs⟩ := hs
      split at h
      · rename_i taken left' hr
        cases h
        obtain ⟨body, hbody, rfl⟩ := closeRegex_sound hr
        have ha := closeRegex_append hr
        rw [List.append_assoc, List.singleton_append]
        refine .regex hs hbody (fun hstart => hc ?_) mem_takeWhile (stops_dropWhile _ _)
        rw [← ha]
        cases body with
        | nil => exact .inl ⟨left', rfl⟩
        | cons d body => exact (startsComment_congr _ _).mp hstart
      · cases h
    rename_i hs
    split at h
    · rename_i hq
      split at h
      · rename_i taken left' hr
        cases h
        obtain ⟨body, hbody, rfl⟩ := closeQuoted_sound hr
        exact .quoted hq hbody
      · cases h
    · rename_i hq
      cases h
      refine .mark (by simpa using hb) (by simpa using hq) hc (fun he => ?_)
      by_contra hl
      exact hs ⟨he, by simpa using hl⟩

end PublicPath.Proofs
