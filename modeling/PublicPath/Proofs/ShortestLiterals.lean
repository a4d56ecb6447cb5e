import Mathlib.Algebra.Ring.Parity
import Mathlib.Data.List.Induction
import PublicPath.Proofs.RefusedSources

/-!
# Literals end at the first place that can end them

A scanner takes two characters at once behind a backslash, and a regular expression has character
classes besides. The ends of literals are said here by what stands in front of them: a delimiter is
escaped by an odd run of backslashes, and a class is open behind its bracket until another closes it.
A scanner stops at the first delimiter that is neither escaped nor hidden.
-/

namespace PublicPath.Proofs
open Text Statement

/-! ### Places -/

/-- A character behind this text is escaped: an odd run of backslashes stands in front of it. -/
def Escapes (front : List Char) : Prop :=
  Odd (front.reverse.takeWhile (· = '\\')).length

/-- Somewhere in the text `c` stands between two parts that `P` allows around it. -/
def Holds (P : List Char → List Char → Prop) (c : Char) (cs : List Char) : Prop :=
  ∃ front back, cs = front ++ c :: back ∧ P front back

/-- Somewhere in the text `c` stands unescaped. -/
def HoldsBare (c : Char) (cs : List Char) : Prop :=
  Holds (fun front _ => ¬ Escapes front) c cs

/-- A character class is open behind this text. -/
def InClass (front : List Char) : Prop :=
  Holds (fun before members => ¬ Escapes before ∧ ¬ HoldsBare ']' members) '[' front

/-- The closing quote can stand behind this text, and could not stand earlier in it. -/
structure EndsQuoted (q : Char) (body : List Char) : Prop where
  bare : ¬ Escapes body
  first : ¬ HoldsBare q body
  line : q ≠ '`' → ¬ HoldsBare '\n' body

/-- The closing slash can stand behind this text, and could not stand earlier in it. -/
structure EndsRegex (body : List Char) : Prop where
  bare : ¬ Escapes body
  outside : ¬ InClass body
  first : ¬ Holds (fun front _ => ¬ Escapes front ∧ ¬ InClass front) '/' body
  line : ¬ HoldsBare '\n' body

/-- A comment with the text `left` behind it: a line comment ends in front of the next line feed, a
block comment behind the first end mark. -/
inductive EndsComment (left : List Char) : List Char → Prop
  | line {body : List Char} (hbody : '\n' ∉ body) (hleft : left = [] ∨ ∃ more, left = '\n' :: more) :
      EndsComment left ('/' :: '/' :: body)
  | block {body : List Char} (first : ∀ front back,
      body ++ '*' :: '/' :: left = front ++ '*' :: '/' :: back → body.length ≤ front.length) :
      EndsComment left ('/' :: '*' :: (body ++ ['*', '/']))

/-- A literal or a comment that never ends stands at the front of a text, named by what opens it. -/
inductive Unclosed (last : Char) : Char → List Char → Prop
  | quoted {q : Char} {rest : List Char} (hq : isQuote q = true)
      (h : ∀ body left, rest = body ++ q :: left → ¬ EndsQuoted q body) : Unclosed last q (q :: rest)
  | regex {rest : List Char} (hlast : startsOperand last = true)
      (hstart : ¬ StartsComment ('/' :: rest))
      (h : ∀ body left, rest = body ++ '/' :: left → ¬ EndsRegex body) :
      Unclosed last '/' ('/' :: rest)
  | comment {rest : List Char} (h : ∀ body left, rest ≠ body ++ '*' :: '/' :: left) :
      Unclosed last '*' ('/' :: '*' :: rest)

/-! ### Backslashes -/

lemma not_escapes_nil : ¬ Escapes [] := by
  simp [Escapes]

lemma escapes_concat (front : List Char) (c : Char) :
    Escapes (front ++ [c]) ↔ c = '\\' ∧ ¬ Escapes front := by
  by_cases hc : c = '\\'
  · simp [Escapes, hc, Nat.odd_add_one]
  · simp [Escapes, hc]

/-- What escapes nothing does not matter in front of a text. -/
lemma escapes_append {lead : List Char} (h : ¬ Escapes lead) (cs : List Char) :
    Escapes (lead ++ cs) ↔ Escapes cs := by
  induction cs using List.reverseRecOn with
  | nil => simp [h, not_escapes_nil]
  | append_singleton cs c ih => rw [← List.append_assoc, escapes_concat, escapes_concat, ih]

lemma escapes_backslash : Escapes ['\\'] :=
  (escapes_concat [] '\\').mpr ⟨rfl, not_escapes_nil⟩

lemma escapes_cons {c : Char} (hc : c ≠ '\\') (cs : List Char) : Escapes (c :: cs) ↔ Escapes cs := by
  have hlead : ¬ Escapes [c] := by
    rw [← List.nil_append [c], escapes_concat]
    exact fun h => hc h.1
  exact escapes_append hlead cs

lemma escapes_pair (c : Char) (cs : List Char) : Escapes ('\\' :: c :: cs) ↔ Escapes cs := by
  have hlead : ¬ Escapes ['\\', c] := by
    rw [← List.singleton_append, escapes_concat]
    exact fun h => h.2 escapes_backslash
  exact escapes_append hlead cs

/-! ### Characters in front of a text -/

section Holds

variable {P : List Char → List Char → Prop} {c d : Char} {cs : List Char}

lemma not_holds_nil : ¬ Holds P c [] := by
  simp [Holds]

lemma holds_cons :
    Holds P c (d :: cs) ↔ (d = c ∧ P [] cs) ∨ Holds (fun front => P (d :: front)) c cs := by
  constructor
  · rintro ⟨front, back, h, hP⟩
    cases front with
    | nil =>
      rw [List.nil_append, List.cons.injEq] at h
      obtain ⟨rfl, rfl⟩ := h
      exact .inl ⟨rfl, hP⟩
    | cons e front =>
      rw [List.cons_append, List.cons.injEq] at h
      obtain ⟨rfl, rfl⟩ := h
      exact .inr ⟨front, back, rfl, hP⟩
  · rintro (⟨rfl, hP⟩ | ⟨front, back, rfl, hP⟩)
    · exact ⟨[], cs, rfl, hP⟩
    · exact ⟨d :: front, back, rfl, hP⟩

lemma not_holdsBare_nil : ¬ HoldsBare c [] :=
  not_holds_nil

lemma holdsBare_cons (hd : d ≠ '\\') : HoldsBare c (d :: cs) ↔ d = c ∨ HoldsBare c cs := by
  simp [HoldsBare, holds_cons, not_escapes_nil, escapes_cons hd]

lemma holdsBare_pair (hc : c ≠ '\\') : HoldsBare c ('\\' :: d :: cs) ↔ HoldsBare c cs := by
  simp [HoldsBare, holds_cons, hc.symm, escapes_backslash, escapes_pair]

lemma inClass_cons (hd : d ≠ '\\') :
    InClass (d :: cs) ↔ (d = '[' ∧ ¬ HoldsBare ']' cs) ∨ InClass cs := by
  simp [InClass, holds_cons, not_escapes_nil, escapes_cons hd]

lemma inClass_pair : InClass ('\\' :: d :: cs) ↔ InClass cs := by
  simp [InClass, holds_cons, escapes_backslash, escapes_pair]

end Holds

/-- A scanner that takes a text through the first place that can end it finds no such place in the
texts that it takes nothing of. -/
lemma eq_none_iff_of_ends {close : Option (List Char × List Char)} {q : Char} {cs : List Char}
    {Ends : List Char → Prop} (h : ∀ taken left, close = some (taken, left) ↔
      ∃ body, taken = body ++ [q] ∧ cs = body ++ q :: left ∧ Ends body) :
    close = none ↔ ∀ body left, cs = body ++ q :: left → ¬ Ends body := by
  rw [Option.eq_none_iff_forall_ne_some]
  constructor
  · intro hnone body left hcs hbody
    exact hnone _ ((h _ left).mpr ⟨body, rfl, hcs, hbody⟩)
  · rintro hends ⟨taken, left⟩ hclose
    obtain ⟨body, -, hcs, hbody⟩ := (h taken left).mp hclose
    exact hends body left hcs hbody

/-! ### Quoted literals -/

section Quoted

variable {q : Char}

lemma EndsQuoted.nil : EndsQuoted q [] :=
  ⟨not_escapes_nil, not_holdsBare_nil, fun _ => not_holdsBare_nil⟩

lemma endsQuoted_pair (hq : q ≠ '\\') (c : Char) (body : List Char) :
    EndsQuoted q ('\\' :: c :: body) ↔ EndsQuoted q body := by
  have hline : ('\n' : Char) ≠ '\\' := by decide
  constructor
  · rintro ⟨hbare, hfirst, hn⟩
    rw [escapes_pair] at hbare
    rw [holdsBare_pair hq] at hfirst
    rw [holdsBare_pair hline] at hn
    exact ⟨hbare, hfirst, hn⟩
  · rintro ⟨hbare, hfirst, hn⟩
    rw [← escapes_pair c] at hbare
    rw [← holdsBare_pair hq] at hfirst
    rw [← holdsBare_pair hline] at hn
    exact ⟨hbare, hfirst, hn⟩

lemma endsQuoted_cons {c : Char} (hc : c ≠ '\\') (body : List Char) :
    EndsQuoted q (c :: body) ↔ c ≠ q ∧ (c = '\n' → q = '`') ∧ EndsQuoted q body := by
  constructor
  · rintro ⟨hbare, hfirst, hn⟩
    rw [escapes_cons hc] at hbare
    rw [holdsBare_cons hc, not_or] at hfirst
    refine ⟨hfirst.1, fun h => ?_, hbare, hfirst.2, fun h => ?_⟩
    · by_contra hq
      exact hn hq ((holdsBare_cons hc).mpr (.inl h))
    · exact fun hb => hn h ((holdsBare_cons hc).mpr (.inr hb))
  · rintro ⟨hcq, hcn, hbare, hfirst, hn⟩
    refine ⟨by rwa [escapes_cons hc], ?_, fun h => ?_⟩
    · rw [holdsBare_cons hc]
      exact not_or.mpr ⟨hcq, hfirst⟩
    · rw [holdsBare_cons hc]
      exact not_or.mpr ⟨fun he => h (hcn he), hn h⟩

/-- What a quoted literal holds reaches to the first place at which the literal can end. -/
lemma quotedBody_iff (hq : q ≠ '\\') {body : List Char} : QuotedBody q body ↔ EndsQuoted q body := by
  constructor
  · intro h
    induction h with
    | nil => exact .nil
    | escape c h ih => exact (endsQuoted_pair hq c _).mpr ih
    | plain hc hs hn h ih => exact (endsQuoted_cons hs _).mpr ⟨hc, hn, ih⟩
  · intro h
    fun_induction closeQuoted q body with
    | case1 => exact .nil
    | case2 => exact absurd escapes_backslash h.bare
    | case3 c body ih => exact .escape c (ih ((endsQuoted_pair hq c body).mp h))
    | case4 body hnil hpair => exact absurd rfl ((endsQuoted_cons hq body).mp h).1
    | case5 c body hnil hpair hc hn =>
      obtain ⟨-, hline, -⟩ := (endsQuoted_cons (ne_backslash hnil hpair) body).mp h
      exact absurd (hline hn.1) hn.2
    | case6 c body hnil hpair hc hn ih =>
      have hs := ne_backslash hnil hpair
      obtain ⟨-, hline, h⟩ := (endsQuoted_cons hs body).mp h
      exact .plain hc hs hline (ih h)

lemma closeQuoted_eq_some_iff (hq : q ≠ '\\') {cs taken left : List Char} :
    closeQuoted q cs = some (taken, left) ↔
      ∃ body, taken = body ++ [q] ∧ cs = body ++ q :: left ∧ EndsQuoted q body := by
  constructor
  · intro h
    obtain ⟨body, hbody, rfl⟩ := closeQuoted_sound h
    have happend := closeQuoted_append h
    rw [List.append_assoc, List.singleton_append] at happend
    exact ⟨body, rfl, happend.symm, (quotedBody_iff hq).mp hbody⟩
  · rintro ⟨body, rfl, rfl, hbody⟩
    exact closeQuoted_body hq ((quotedBody_iff hq).mpr hbody) left

lemma closeQuoted_eq_none_iff (hq : q ≠ '\\') {cs : List Char} :
    closeQuoted q cs = none ↔ ∀ body left, cs = body ++ q :: left → ¬ EndsQuoted q body :=
  eq_none_iff_of_ends fun _ _ => closeQuoted_eq_some_iff hq

end Quoted

/-! ### Regular expressions -/

/-- Behind this text a class is open, when one was or was not open in front of it. -/
def InClassFrom (inClass : Bool) (front : List Char) : Prop :=
  InClass front ∨ (inClass = true ∧ ¬ HoldsBare ']' front)

/-- As `EndsRegex`, from inside a class or outside of one. -/
structure EndsRegexFrom (inClass : Bool) (body : List Char) : Prop where
  bare : ¬ Escapes body
  outside : ¬ InClassFrom inClass body
  first : ¬ Holds (fun front _ => ¬ Escapes front ∧ ¬ InClassFrom inClass front) '/' body
  line : ¬ HoldsBare '\n' body

section Regex

variable {inClass : Bool} {c : Char} {body : List Char}

lemma inClassFrom_nil : InClassFrom inClass [] ↔ inClass = true := by
  simp [InClassFrom, InClass, not_holds_nil, not_holdsBare_nil]

lemma inClassFrom_pair : InClassFrom inClass ('\\' :: c :: body) ↔ InClassFrom inClass body := by
  rw [InClassFrom, InClassFrom, inClass_pair, holdsBare_pair (by decide)]

lemma inClassFrom_cons (hc : c ≠ '\\') :
    InClassFrom inClass (c :: body) ↔ InClassFrom (classAfter inClass c) body := by
  have hafter : classAfter inClass c = true ↔ c = '[' ∨ (inClass = true ∧ c ≠ ']') := by
    simp [classAfter]
  rw [InClassFrom, InClassFrom, inClass_cons hc, holdsBare_cons hc, hafter]
  by_cases ho : c = '['
  · have hb : c ≠ ']' := by
      rw [ho]
      decide
    tauto
  · tauto

lemma inClassFrom_false : InClassFrom false body ↔ InClass body := by
  simp [InClassFrom]

lemma endsRegexFrom_false : EndsRegexFrom false body ↔ EndsRegex body := by
  constructor
  · rintro ⟨hbare, houtside, hfirst, hline⟩
    simp only [inClassFrom_false] at houtside hfirst
    exact ⟨hbare, houtside, hfirst, hline⟩
  · rintro ⟨hbare, houtside, hfirst, hline⟩
    simp only [← inClassFrom_false] at houtside hfirst
    exact ⟨hbare, houtside, hfirst, hline⟩

lemma endsRegexFrom_nil : EndsRegexFrom inClass [] ↔ inClass = false := by
  constructor
  · intro h
    simpa [inClassFrom_nil] using h.outside
  · rintro rfl
    exact ⟨not_escapes_nil, by simp [inClassFrom_nil], not_holds_nil, not_holdsBare_nil⟩

lemma endsRegexFrom_pair :
    EndsRegexFrom inClass ('\\' :: c :: body) ↔ EndsRegexFrom inClass body := by
  have hfirst : Holds (fun front _ => ¬ Escapes front ∧ ¬ InClassFrom inClass front) '/'
      ('\\' :: c :: body) ↔
        Holds (fun front _ => ¬ Escapes front ∧ ¬ InClassFrom inClass front) '/' body := by
    simp [holds_cons, escapes_backslash, escapes_pair, inClassFrom_pair]
  have hline : HoldsBare '\n' ('\\' :: c :: body) ↔ HoldsBare '\n' body := holdsBare_pair (by decide)
  constructor
  · rintro ⟨hb, ho, hf, hn⟩
    exact ⟨by rwa [escapes_pair] at hb, by rwa [inClassFrom_pair] at ho, by rwa [hfirst] at hf,
      by rwa [hline] at hn⟩
  · rintro ⟨hb, ho, hf, hn⟩
    exact ⟨by rwa [escapes_pair], by rwa [inClassFrom_pair], by rwa [hfirst], by rwa [hline]⟩

lemma endsRegexFrom_cons (hc : c ≠ '\\') :
    EndsRegexFrom inClass (c :: body) ↔
      ¬ (c = '/' ∧ inClass = false) ∧ c ≠ '\n' ∧ EndsRegexFrom (classAfter inClass c) body := by
  have hfirst : Holds (fun front _ => ¬ Escapes front ∧ ¬ InClassFrom inClass front) '/'
      (c :: body) ↔ (c = '/' ∧ inClass = false) ∨
        Holds (fun front _ => ¬ Escapes front ∧ ¬ InClassFrom (classAfter inClass c) front) '/' body := by
    simp [holds_cons, not_escapes_nil, inClassFrom_nil, escapes_cons hc, inClassFrom_cons hc]
  constructor
  · rintro ⟨hb, ho, hf, hn⟩
    rw [escapes_cons hc] at hb
    rw [inClassFrom_cons hc] at ho
    rw [hfirst, not_or] at hf
    rw [holdsBare_cons hc, not_or] at hn
    exact ⟨hf.1, hn.1, hb, ho, hf.2, hn.2⟩
  · rintro ⟨hslash, hfeed, hb, ho, hf, hn⟩
    refine ⟨by rwa [escapes_cons hc], by rwa [inClassFrom_cons hc], ?_, ?_⟩
    · rw [hfirst]
      exact not_or.mpr ⟨hslash, hf⟩
    · rw [holdsBare_cons hc]
      exact not_or.mpr ⟨hfeed, hn⟩

/-- A class ends at the first bracket that can close it. -/
lemma endsRegexFrom_class {members : List Char} (h : ClassBody members) :
    EndsRegexFrom true (members ++ ']' :: body) ↔ EndsRegexFrom false body := by
  induction h with
  | nil =>
    rw [List.nil_append, endsRegexFrom_cons (by decide)]
    simp [classAfter]
  | escape c h ih => rw [List.cons_append, List.cons_append, endsRegexFrom_pair, ih]
  | @plain c members hb hs hn h ih =>
    have hafter : classAfter true c = true := by
      simp [classAfter, hb]
    rw [List.cons_append, endsRegexFrom_cons hs, hafter, ih]
    simp [hn]

lemma endsRegexFrom_of_regexBody (h : RegexBody body) : EndsRegexFrom false body := by
  induction h with
  | nil => exact endsRegexFrom_nil.mpr rfl
  | escape c h ih => exact endsRegexFrom_pair.mpr ih
  | @plain c body hb hc hs hn h ih =>
    have hafter : classAfter false c = false := by
      simp [classAfter, hb]
    rw [endsRegexFrom_cons hs, hafter]
    exact ⟨fun h => hc h.1, hn, ih⟩
  | charClass hm h ih =>
    rw [endsRegexFrom_cons (by decide)]
    exact ⟨by decide, by decide, (endsRegexFrom_class hm).mpr ih⟩

lemma regexRest_of_endsRegexFrom (h : EndsRegexFrom inClass body) : RegexRest inClass body := by
  fun_induction closeRegex inClass body with
  | case1 inClass =>
    obtain rfl := endsRegexFrom_nil.mp h
    exact RegexBody.nil
  | case2 => exact absurd escapes_backslash h.bare
  | case3 inClass c body ih => exact regexRest_escape (ih (endsRegexFrom_pair.mp h)) c
  | case4 inClass c body hnil hpair hc =>
    obtain ⟨hslash, -, -⟩ := (endsRegexFrom_cons (ne_backslash hnil hpair)).mp h
    exact absurd hc hslash
  | case5 inClass body hnil hpair hc =>
    obtain ⟨-, hfeed, -⟩ := (endsRegexFrom_cons (ne_backslash hnil hpair)).mp h
    exact absurd rfl hfeed
  | case6 inClass c body hnil hpair hc hn ih =>
    have hs := ne_backslash hnil hpair
    obtain ⟨hslash, hfeed, h⟩ := (endsRegexFrom_cons hs).mp h
    exact regexRest_cons (ih h) hs hfeed hslash

/-- What a regular expression holds reaches to the first slash that can end it. -/
lemma regexBody_iff : RegexBody body ↔ EndsRegex body := by
  rw [← endsRegexFrom_false]
  exact ⟨endsRegexFrom_of_regexBody, fun h => regexRest_of_endsRegexFrom h⟩

lemma closeRegex_eq_some_iff {cs taken left : List Char} :
    closeRegex false cs = some (taken, left) ↔
      ∃ body, taken = body ++ ['/'] ∧ cs = body ++ '/' :: left ∧ EndsRegex body := by
  constructor
  · intro h
    obtain ⟨body, hbody, rfl⟩ := closeRegex_sound h
    have happend := closeRegex_append h
    rw [List.append_assoc, List.singleton_append] at happend
    exact ⟨body, rfl, happend.symm, regexBody_iff.mp hbody⟩
  · rintro ⟨body, rfl, rfl, hbody⟩
    exact closeRegex_body (regexBody_iff.mpr hbody) left

lemma closeRegex_eq_none_iff {cs : List Char} :
    closeRegex false cs = none ↔ ∀ body left, cs = body ++ '/' :: left → ¬ EndsRegex body :=
  eq_none_iff_of_ends fun _ _ => closeRegex_eq_some_iff

end Regex

/-! ### Comments -/

section Comments

variable {body left : List Char}

/-- No end mark stands within a text exactly if none starts in it that reaches beyond it either. -/
lemma not_infix_iff : ¬ ['*', '/'] <:+: body ↔ ∀ front back,
    body ++ '*' :: '/' :: left = front ++ '*' :: '/' :: back → body.length ≤ front.length := by
  constructor
  · intro h front back heq
    rcases List.append_eq_append_iff.mp heq with ⟨more, rfl, -⟩ | ⟨more, rfl, hmore⟩
    · simp
    · match more, hmore with
      | [], _ => simp
      | [c], hmore => cases hmore
      | c :: d :: more, hmore =>
        cases hmore
        exact absurd ⟨front, more, by simp⟩ h
  · rintro h ⟨front, back, rfl⟩
    have hle := h front (back ++ '*' :: '/' :: left) (by simp)
    simp only [List.length_append, List.length_cons, List.length_nil] at hle
    omega

lemma not_infix_iff_ne {cs : List Char} :
    ¬ ['*', '/'] <:+: cs ↔ ∀ body left, cs ≠ body ++ '*' :: '/' :: left := by
  simp [List.IsInfix, eq_comm]

lemma stops_lineFeed_iff : Stops (· ≠ '\n') left ↔ left = [] ∨ ∃ more, left = '\n' :: more := by
  cases left <;> simp [stops_nil, stops_cons]

lemma endsComment_iff {text : List Char} : EndsComment left text ↔ IsComment left text := by
  constructor
  · rintro (⟨hbody, hleft⟩ | first)
    · exact .line hbody (stops_lineFeed_iff.mpr hleft)
    · exact .block (not_infix_iff.mpr first)
  · rintro (⟨hbody, hafter⟩ | hbody)
    · exact .line hbody (stops_lineFeed_iff.mp hafter)
    · exact .block (not_infix_iff.mp hbody)

lemma read_eq_closed_iff {cs text : List Char} :
    Comment.read cs = .closed text left ↔ cs = text ++ left ∧ EndsComment left text := by
  rw [endsComment_iff]
  constructor
  · exact fun h => ⟨(Comment.read_append h).symm, isComment_of_read h⟩
  · rintro ⟨rfl, h⟩
    exact read_of_isComment h

lemma not_infix_of_closeBlock {cs : List Char} (h : closeBlock cs = none) : ¬ ['*', '/'] <:+: cs := by
  fun_induction closeBlock cs with
  | case1 => simp
  | case2 => cases h
  | case3 c rest hne ih =>
    rw [List.infix_cons_iff, not_or]
    refine ⟨?_, ih (Option.map_eq_none_iff.mp h)⟩
    rintro ⟨tail, htail⟩
    cases htail
    exact hne tail rfl rfl

lemma closeBlock_eq_none_iff {cs : List Char} :
    closeBlock cs = none ↔ ∀ body left, cs ≠ body ++ '*' :: '/' :: left := by
  rw [← not_infix_iff_ne]
  refine ⟨not_infix_of_closeBlock, fun h => Option.eq_none_iff_forall_ne_some.mpr ?_⟩
  rintro ⟨taken, left⟩ hclose
  obtain ⟨body, -, rfl⟩ := closeBlock_sound hclose
  rw [← closeBlock_append hclose] at h
  exact h ⟨body, left, by simp⟩

lemma read_eq_unclosed_iff {cs : List Char} : Comment.read cs = .unclosed ↔
    ∃ rest, cs = '/' :: '*' :: rest ∧ ∀ body left, rest ≠ body ++ '*' :: '/' :: left := by
  constructor
  · intro h
    obtain ⟨rest, rfl⟩ := unclosed_front h
    refine ⟨rest, rfl, closeBlock_eq_none_iff.mp ?_⟩
    rw [Comment.read] at h
    split at h
    · cases h
    · assumption
  · rintro ⟨rest, rfl, h⟩
    rw [Comment.read, closeBlock_eq_none_iff.mpr h]

end Comments

/-! ### Lexemes -/

section Lexemes

variable {last : Char}

/-- A regular expression starts like a comment only if nothing is in it. -/
lemma startsComment_body (body rest : List Char) :
    StartsComment ('/' :: (body ++ '/' :: rest)) ↔ StartsComment ('/' :: (body ++ ['/'])) := by
  cases body <;> exact startsComment_congr _ _

lemma next_eq_regex_iff {rest text left : List Char} :
    Lexeme.next last '/' rest = .ok (.regex text, left) ↔
      startsOperand last = true ∧ ¬ StartsComment ('/' :: rest) ∧ ∃ body flags,
        text = '/' :: (body ++ '/' :: flags) ∧ rest = body ++ '/' :: (flags ++ left) ∧
        EndsRegex body ∧ (∀ c ∈ flags, isIdentifierPart c = true) ∧ Stops isIdentifierPart left := by
  constructor
  · intro h
    have happend := next_append h
    cases isLexeme_of_next h with
    | @regex body flags hlast hbody hstart hflags hleft =>
      obtain rfl : body ++ '/' :: (flags ++ left) = rest := by
        simpa [Lexeme.text] using happend
      rw [← startsComment_body body (flags ++ left)] at hstart
      exact ⟨hlast, hstart, body, flags, rfl, rfl, regexBody_iff.mp hbody, hflags, hleft⟩
  · rintro ⟨hlast, hstart, body, flags, rfl, rfl, hbody, hflags, hleft⟩
    rw [startsComment_body] at hstart
    obtain ⟨c, rest, htext, hnext⟩ := next_of_isLexeme
      (.regex hlast (regexBody_iff.mpr hbody) hstart hflags hleft : IsLexeme last left _)
    cases htext
    simpa using hnext

lemma next_of_unclosed {c q : Char} {rest : List Char} (h : Unclosed last q (c :: rest)) :
    Lexeme.next last c rest = .error q := by
  cases h with
  | quoted hq hnone =>
    obtain ⟨hslash, hback⟩ := isQuote_ne_slash hq
    rw [Lexeme.next, read_eq_absent_iff.mpr (not_startsComment_of_ne hslash rest)]
    dsimp only
    rw [if_neg (by simp [isQuote_not_isBlank hq]), if_neg (by simp [hslash]), if_pos hq,
      (closeQuoted_eq_none_iff hback).mpr hnone]
  | regex hlast hstart hnone =>
    rw [Lexeme.next, read_eq_absent_iff.mpr hstart]
    dsimp only
    rw [if_neg (by decide), if_pos ⟨rfl, hlast⟩, closeRegex_eq_none_iff.mpr hnone]
  | @comment rest hnone => rw [Lexeme.next, read_eq_unclosed_iff.mpr ⟨rest, rfl, hnone⟩]

lemma unclosed_of_next {c q : Char} {rest : List Char} (h : Lexeme.next last c rest = .error q) :
    Unclosed last q (c :: rest) := by
  unfold Lexeme.next at h
  split at h
  · cases h
  · rename_i hread
    cases h
    obtain ⟨rest, heq, hnone⟩ := read_eq_unclosed_iff.mp hread
    rw [heq]
    exact .comment hnone
  rename_i hread
  rw [read_eq_absent_iff] at hread
  split at h
  · cases h
  split at h
  · rename_i hs
    obtain ⟨rfl, hlast⟩ := hs
    split at h
    · cases h
    · rename_i hnone
      cases h
      exact .regex hlast hread (closeRegex_eq_none_iff.mp hnone)
  split at h
  · rename_i hq
    split at h
    · cases h
    · rename_i hnone
      cases h
      exact .quoted hq ((closeQuoted_eq_none_iff (isQuote_ne_slash hq).2).mp hnone)
  · cases h

end Lexemes

/-- Every scanner stops at the first place that can end what it reads: a quoted literal behind its
first unescaped quote, a regular expression behind its first slash that is neither escaped nor in a
class and the flags there, a comment at its line feed or behind its end mark. Where there is no such
place, or an unescaped line feed comes first, the error names the character that opens the literal
and its place. -/
theorem scanners_stop_first :
    (∀ q cs taken left, isQuote q = true → (closeQuoted q cs = some (taken, left) ↔
      ∃ body, taken = body ++ [q] ∧ cs = body ++ q :: left ∧ EndsQuoted q body)) ∧
    (∀ cs taken left, closeRegex false cs = some (taken, left) ↔
      ∃ body, taken = body ++ ['/'] ∧ cs = body ++ '/' :: left ∧ EndsRegex body) ∧
    (∀ last rest text left, Lexeme.next last '/' rest = .ok (.regex text, left) ↔
      startsOperand last = true ∧ ¬ StartsComment ('/' :: rest) ∧ ∃ body flags,
        text = '/' :: (body ++ '/' :: flags) ∧ rest = body ++ '/' :: (flags ++ left) ∧
        EndsRegex body ∧ (∀ c ∈ flags, isIdentifierPart c = true) ∧ Stops isIdentifierPart left) ∧
    (∀ cs text left,
      Comment.read cs = .closed text left ↔ cs = text ++ left ∧ EndsComment left text) ∧
    (∀ cs, Comment.read cs = .unclosed ↔
      ∃ rest, cs = '/' :: '*' :: rest ∧ ∀ body left, rest ≠ body ++ '*' :: '/' :: left) ∧
    (∀ cs, Comment.read cs = .absent ↔ ¬ StartsComment cs) ∧
    (∀ last c rest q, Lexeme.next last c rest = .error q ↔ Unclosed last q (c :: rest)) ∧
    (∀ s offset c rest q, Unclosed s.significant q (c :: rest) →
      scanValue s offset (c :: rest) = .error (.unterminatedLiteral q offset)) ∧
    (∀ offset q rest, q = '"' ∨ q = '\'' →
      (∀ body left, rest = body ++ q :: left → ¬ EndsQuoted q body) →
      scanKey offset (q :: rest) = .error (.unterminatedLiteral q offset)) ∧
    (∀ offset rest, (∀ body left, rest ≠ body ++ '*' :: '/' :: left) →
      checkTrailing offset ('/' :: '*' :: rest) = .error (.unterminatedLiteral '*' offset)) := by
  refine ⟨?_, fun _ _ _ => closeRegex_eq_some_iff, fun _ _ _ _ => next_eq_regex_iff,
    fun _ _ _ => read_eq_closed_iff, fun _ => read_eq_unclosed_iff, fun _ => read_eq_absent_iff,
    fun _ _ _ _ => ⟨unclosed_of_next, next_of_unclosed⟩, ?_, ?_, ?_⟩
  · exact fun q cs taken left hq => closeQuoted_eq_some_iff (isQuote_ne_slash hq).2
  · exact fun s offset c rest q h => scanValue_unclosed (next_of_unclosed h) offset
  · intro offset q rest hq hnone
    have hback : q ≠ '\\' := by
      rcases hq with rfl | rfl <;> decide
    rw [scanKey, if_pos hq, (closeQuoted_eq_none_iff hback).mpr hnone]
  · intro offset rest hnone
    exact checkTrailing_eq_error_iff.mpr
      (.unclosed .nil (read_eq_unclosed_iff.mpr ⟨rest, rfl, hnone⟩))

theorem scanners_stop_first_hidden :
    (isQuote '"' = true ∧ EndsQuoted '"' ['a', '\\', '"']) ∧
      (Unclosed '=' '/' ['/', '[', '/', ']'] ∧
        scanValue .start 3 ['/', '[', '/', ']'] = .error (.unterminatedLiteral '/' 3)) ∧
      scanKey 2 ['\'', '\n', '\''] = .error (.unterminatedLiteral '\'' 2) ∧
      checkTrailing 4 ['/', '*', '*'] = .error (.unterminatedLiteral '*' 4) := by
  obtain ⟨hquoted, -, -, -, -, -, hnext, hvalue, hkey, htrailing⟩ := scanners_stop_first
  refine ⟨⟨by decide, ?_⟩, ?_, ?_, ?_⟩
  · obtain ⟨body, htaken, -, hbody⟩ :=
      (hquoted '"' ['a', '\\', '"', '"', ';'] ['a', '\\', '"', '"'] [';'] (by decide)).mp (by decide)
    obtain rfl : ['a', '\\', '"'] = body := List.append_cancel_right htaken
    exact hbody
  · have hregex : Unclosed '=' '/' ['/', '[', '/', ']'] := (hnext _ _ _ _).mp (by rfl)
    exact ⟨hregex, hvalue .start 3 _ _ _ hregex⟩
  · exact hkey 2 '\'' ['\n', '\''] (.inr rfl) ((closeQuoted_eq_none_iff (by decide)).mp (by rfl))
  · exact htrailing 4 ['*'] (closeBlock_eq_none_iff.mp (by rfl))

end PublicPath.Proofs
