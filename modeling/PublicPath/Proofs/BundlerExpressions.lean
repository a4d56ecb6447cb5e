import PublicPath.Proofs.Replacement

/-!
# Expressions a bundler writes

The expressions are built from names, numbers and literals by calls, member accesses, conditionals,
operators, functions called at once and arrays, at any depth. Each is passed over wherever an
operand may stand: every slash in it is read as what it is, and no equals sign in it is taken for an
assignment. So an assignment of such an expression is always replaced.
-/

namespace PublicPath.Proofs
open Text Statement

/-- The binary operators of the fragment. -/
def operators : List (List Char) :=
  [['+'], ['-'], ['*'], ['/'], ['=', '=', '='], ['!', '=', '='], ['<', '='], ['>', '='], ['&', '&'],
    ['|', '|']]

def commaSeparated (vs : List (List Char)) : List Char := [',', ' '].intercalate vs

inductive Expression : List Char → Prop
  | identifier {name : List Char} (h : IsIdentifier name) : Expression name
  | digits {ds : List Char} (hne : ds ≠ []) (h : ∀ d ∈ ds, d.isDigit = true) : Expression ds
  | quoted {q : Char} {body : List Char} (hq : q = '"' ∨ q = '\'') (h : QuotedBody q body) :
      Expression (q :: (body ++ [q]))
  | template {body : List Char} (h : QuotedBody '`' body) : Expression ('`' :: (body ++ ['`']))
  | regex {body flags : List Char} (hne : body ≠ []) (h : RegexBody body)
      (hstart : Stops (fun c => c == '*' || c == '/') body)
      (hflags : ∀ c ∈ flags, isIdentifierPart c = true) :
      Expression ('/' :: (body ++ '/' :: flags))
  | call {name : List Char} {args : List (List Char)} (hname : IsIdentifier name)
      (hargs : ∀ v ∈ args, Expression v) : Expression (name ++ '(' :: (commaSeparated args ++ [')']))
  | member {v name : List Char} (hv : Expression v) (hname : IsIdentifier name) :
      Expression (v ++ ['.'] ++ name)
  | conditional {test yes no : List Char} (htest : Expression test) (hyes : Expression yes)
      (hno : Expression no) :
      Expression (test ++ [' ', '?', ' '] ++ yes ++ [' ', ':', ' '] ++ no)
  | binary {left op right : List Char} (hleft : Expression left) (hop : op ∈ operators)
      (hright : Expression right) : Expression (left ++ ' ' :: (op ++ [' ']) ++ right)
  | function {v : List Char} (hv : Expression v) :
      Expression ('(' :: (['(', ')', ' ', '=', '>', ' '] ++ v ++ [')']) ++ ['(', ')'])
  | array {items : List (List Char)} (hitems : ∀ v ∈ items, Expression v) :
      Expression ('[' :: (commaSeparated items ++ [']']))

/-! ### Marks between operands -/

section Marks

variable {pre : Char → Prop} {follow : List Char → Prop}

lemma passes_space : Passes pre [' '] follow pre :=
  passes_blanks (blanks_singleton rfl)

lemma passes_mark {c : Char} (h : c ∈ plainMarks) (hc : WantsOperand c) :
    Passes pre [c] follow WantsOperand := by
  refine (passes_plain (isPlain_of_mem_plainMarks h)).mono (fun _ h => h) (fun _ h => h) ?_
  rintro d rfl
  exact hc

lemma passes_spaced {c : Char} (h : c ∈ plainMarks) (hc : WantsOperand c) :
    Passes pre [' ', c, ' '] follow WantsOperand := by
  have hmark : Passes pre [c, ' '] follow WantsOperand := (passes_mark h hc).seq passes_space
  exact passes_space.seq hmark

lemma passes_slash : Passes EndsOperand ['/'] (fun after => after.head? = some ' ') WantsOperand := by
  intro after offset s hs hafter
  obtain ⟨rest, rfl⟩ := List.head?_eq_some_iff.mp hafter
  refine ⟨⟨s.opened, '/', '/'⟩, ?_, rfl, rfl⟩
  have hstart : ¬ StartsComment ('/' :: ' ' :: rest) := by simp [StartsComment]
  exact readsText_lexeme (.mark rfl rfl hstart (fun _ => hs))
    (.plain rfl rfl (fun h => absurd h (by decide)) (fun h => absurd h (by decide)))

/-- One equals sign that is part of a comparison or an arrow. -/
lemma readsText_equals {after : List Char} {offset : Nat} {s : Context}
    (h : isComparison s.previous after.head? = true) :
    ReadsText after offset s ['='] ⟨s.opened, '=', '='⟩ :=
  readsText_lexeme
    (.mark rfl rfl (not_startsComment_of_ne (by decide) after) (fun h => absurd h (by decide)))
    (.plain rfl rfl (fun h => absurd h (by decide)) (fun _ _ => h))

/-- Equals signs behind a character that compares. -/
lemma readsText_equalsRun (after : List Char) (k offset : Nat) (s : Context)
    (hprevious : isComparison s.previous none = true) (hs : WantsOperand s.significant) :
    ∃ t, ReadsText after offset s (List.replicate k '=') t ∧ t.opened = s.opened ∧
      WantsOperand t.significant := by
  induction k generalizing offset s with
  | zero => exact ⟨s, readsText_nil after offset s, rfl, hs⟩
  | succ k ih =>
    have hone : ReadsText (List.replicate k '=' ++ after) offset s ['='] ⟨s.opened, '=', '='⟩ := by
      apply readsText_equals
      simp only [isComparison, Bool.or_eq_true] at hprevious ⊢
      simp_all
    obtain ⟨t, hread, hopened, ht⟩ := ih (offset + byteLength ['=']) ⟨s.opened, '=', '='⟩ rfl rfl
    exact ⟨t, hone.append hread, hopened, ht⟩

/-- A comparison that starts with a mark of its own. -/
lemma passes_comparison {c : Char} (h : c ∈ plainMarks) (hc : isComparison c none = true)
    (hw : WantsOperand c) (k : Nat) : Passes pre (c :: List.replicate k '=') follow WantsOperand := by
  intro after offset s _ _
  have hone : ReadsText (List.replicate k '=' ++ after) offset s [c] ⟨s.opened, c, c⟩ :=
    (isPlain_of_mem_plainMarks h).readsText _ offset s
  obtain ⟨t, hread, hopened, ht⟩ :=
    readsText_equalsRun after k (offset + byteLength [c]) ⟨s.opened, c, c⟩ hc hw
  exact ⟨t, hone.append hread, hopened, ht⟩

lemma passes_identity : Passes pre ['=', '=', '='] follow WantsOperand := by
  intro after offset s _ _
  have hone : ReadsText (['=', '='] ++ after) offset s ['='] ⟨s.opened, '=', '='⟩ := by
    apply readsText_equals
    simp [isComparison]
  obtain ⟨t, hread, hopened, ht⟩ :=
    readsText_equalsRun after 2 (offset + byteLength ['=']) ⟨s.opened, '=', '='⟩ rfl rfl
  exact ⟨t, hone.append hread, hopened, ht⟩

lemma passes_arrow : Passes pre ['=', '>'] follow WantsOperand := by
  intro after offset s _ _
  have hone : ReadsText (['>'] ++ after) offset s ['='] ⟨s.opened, '=', '='⟩ := by
    apply readsText_equals
    simp [isComparison]
  have hmark : ReadsText after (offset + byteLength ['=']) ⟨s.opened, '=', '='⟩ ['>']
      ⟨s.opened, '>', '>'⟩ :=
    (isPlain_of_mem_plainMarks (by decide)).readsText after _ _
  exact ⟨⟨s.opened, '>', '>'⟩, hone.append hmark, rfl, rfl⟩

lemma passes_operator {op : List Char} (h : op ∈ operators) :
    Passes EndsOperand op (fun after => after.head? = some ' ') WantsOperand := by
  simp only [operators, List.mem_cons, List.not_mem_nil, or_false] at h
  rcases h with rfl | rfl | rfl | rfl | rfl | rfl | rfl | rfl | rfl | rfl
  · exact passes_mark (by decide) rfl
  · exact passes_mark (by decide) rfl
  · exact passes_mark (by decide) rfl
  · exact passes_slash
  · exact passes_identity
  · exact passes_comparison (c := '!') (by decide) rfl rfl 2
  · exact passes_comparison (c := '<') (by decide) rfl rfl 1
  · exact passes_comparison (c := '>') (by decide) rfl rfl 1
  · have hone : Passes EndsOperand ['&'] (fun _ => True) WantsOperand := passes_mark (by decide) rfl
    exact hone.seq (passes_mark (by decide) rfl)
  · have hone : Passes EndsOperand ['|'] (fun _ => True) WantsOperand := passes_mark (by decide) rfl
    exact hone.seq (passes_mark (by decide) rfl)

lemma passes_regex {body flags : List Char} (hne : body ≠ []) (h : RegexBody body)
    (hstart : Stops (fun c => c == '*' || c == '/') body)
    (hflags : ∀ c ∈ flags, isIdentifierPart c = true) :
    Passes WantsOperand ('/' :: (body ++ '/' :: flags)) (Stops isIdentifierPart) EndsOperand := by
  intro after offset s hs hafter
  obtain ⟨c, body, rfl⟩ := List.exists_cons_of_ne_nil hne
  rw [stops_cons, Bool.or_eq_false_iff, beq_eq_false_iff_ne, beq_eq_false_iff_ne] at hstart
  have hcomment : ¬ StartsComment ('/' :: (c :: body ++ ['/'])) := by
    simp [StartsComment, hstart.1.symm, hstart.2.symm]
  refine ⟨{ s with previous := '/', significant := ')' }, ?_, rfl, rfl⟩
  exact readsText_lexeme (.regex hs h hcomment hflags hafter) (.regex _)

end Marks

/-! ### Expressions as operands -/

/-- What may stand right behind an operand. -/
def operandEnds : List Char := [' ', ',', ')', ']', '.', ';']

lemma stops_of_mem_operandEnds {c : Char} (h : c ∈ operandEnds) (rest : List Char) :
    Stops isIdentifierPart (c :: rest) := by
  have hall : operandEnds.all (fun d => !isIdentifierPart d) = true := by
    decide +kernel
  rw [stops_cons]
  simpa using List.all_eq_true.mp hall c h

lemma passes_between {mid post : Char → Prop} {left between right : List Char} {c : Char}
    {follow : List Char → Prop} (hleft : Passes WantsOperand left (Stops isIdentifierPart) EndsOperand)
    (hc : c ∈ operandEnds) (hbetween : Passes EndsOperand (c :: between) (fun _ => True) mid)
    (hright : Passes mid right follow post) :
    Passes WantsOperand (left ++ c :: between ++ right) follow post := by
  have hfront : Passes WantsOperand (left ++ c :: between) (fun _ => True) mid :=
    hleft.append hbetween (fun _ _ => stops_of_mem_operandEnds hc _)
  exact hfront.seq hright

lemma commaSeparated_cons_cons (v w : List Char) (vs : List (List Char)) :
    commaSeparated (v :: w :: vs) = v ++ [',', ' '] ++ commaSeparated (w :: vs) := by
  simp [commaSeparated, List.intercalate]

lemma passes_commaSeparated {vs : List (List Char)}
    (h : ∀ v ∈ vs, Passes WantsOperand v (Stops isIdentifierPart) EndsOperand) :
    Passes WantsOperand (commaSeparated vs) (Stops isIdentifierPart) (fun _ => True) := by
  induction vs with
  | nil => exact passes_nil.mono (fun _ h => h) (fun _ h => h) (fun _ _ => trivial)
  | cons v vs ih =>
    have hv := h v List.mem_cons_self
    cases vs with
    | nil =>
      have hone : commaSeparated [v] = v := by simp [commaSeparated, List.intercalate]
      rw [hone]
      exact hv.mono (fun _ h => h) (fun _ h => h) (fun _ _ => trivial)
    | cons w vs =>
      have hcomma : Passes EndsOperand [','] (fun _ => True) WantsOperand :=
        passes_mark (by decide) rfl
      have hseparator : Passes EndsOperand [',', ' '] (fun _ => True) WantsOperand :=
        hcomma.seq passes_space
      rw [commaSeparated_cons_cons]
      exact passes_between hv (by decide) hseparator
        (ih fun u hu => h u (List.mem_cons_of_mem v hu))

/-- A group in round or square brackets ends an operand. -/
lemma passes_operandGroup {pre mid : Char → Prop} {opener closer : Char} {cs : List Char}
    {follow : List Char → Prop} (hb : (opener, closer) ∈ [('(', ')'), ('[', ']')])
    (h : Passes WantsOperand cs (Stops isIdentifierPart) mid) :
    Passes pre (opener :: (cs ++ [closer])) follow EndsOperand := by
  have hwants : WantsOperand opener ∧ EndsOperand closer ∧ isOpener opener = true ∧
      openerOf closer = some opener ∧ closer ∈ operandEnds := by
    simp only [List.mem_cons, Prod.mk.injEq, List.not_mem_nil, or_false] at hb
    rcases hb with ⟨rfl, rfl⟩ | ⟨rfl, rfl⟩ <;> exact ⟨rfl, rfl, rfl, rfl, by decide⟩
  obtain ⟨hpre, hpost, ho, hc, hclose⟩ := hwants
  have hinside : Passes (· = opener) cs (Stops isIdentifierPart) mid := by
    refine h.mono ?_ (fun _ h => h) (fun _ h => h)
    rintro c rfl
    exact hpre
  have hgroup : Passes pre (opener :: (cs ++ [closer])) follow (· = closer) :=
    passes_group ho hc hinside (fun after => stops_of_mem_operandEnds hclose after)
  refine hgroup.mono (fun _ h => h) (fun _ h => h) ?_
  rintro c rfl
  exact hpost

/-- Wherever an operand may stand, an expression is passed over as one. -/
theorem passes_expression {v : List Char} (h : Expression v) :
    Passes WantsOperand v (Stops isIdentifierPart) EndsOperand := by
  induction h with
  | identifier h => exact passes_identifier h
  | digits hne h => exact passes_name hne fun d hd => isIdentifierPart_of_isDigit (h d hd)
  | quoted hq h =>
    refine passes_quoted ?_ h
    rcases hq with rfl | rfl <;> rfl
  | template h => exact passes_quoted rfl h
  | regex hne h hstart hflags => exact passes_regex hne h hstart hflags
  | call hname _ ih =>
    exact (passes_identifier hname).seq
      (passes_operandGroup (by decide) (passes_commaSeparated ih))
  | member _ hname ih =>
    have hdot : IsPlain '.' := isPlain_of_mem_plainMarks (by decide)
    exact passes_between ih (by decide) (passes_plain hdot) (passes_identifier hname)
  | conditional _ _ _ itest iyes ino =>
    have hquestion : Passes EndsOperand [' ', '?', ' '] (fun _ => True) WantsOperand :=
      passes_spaced (by decide) rfl
    have hcolon : Passes EndsOperand [' ', ':', ' '] (fun _ => True) WantsOperand :=
      passes_spaced (by decide) rfl
    exact passes_between (passes_between itest (by decide) hquestion iyes) (by decide) hcolon ino
  | @binary left op right _ hop _ ileft iright =>
    have hop' : Passes EndsOperand (op ++ [' ']) (fun _ => True) WantsOperand :=
      (passes_operator hop).append passes_space (fun _ _ => rfl)
    exact passes_between ileft (by decide) (passes_space.seq hop') iright
  | @function v _ ih =>
    have hnil : Passes WantsOperand [] (Stops isIdentifierPart) WantsOperand := passes_nil
    have hempty : ∀ {pre : Char → Prop} {follow : List Char → Prop},
        Passes pre ('(' :: ([] ++ [')'])) follow EndsOperand :=
      passes_operandGroup (by decide) hnil
    have harrow : Passes WantsOperand ['(', ')', ' ', '=', '>', ' '] (fun _ => True) WantsOperand :=
      hempty.seq (passes_space.seq (passes_arrow.seq passes_space))
    have hgroup : Passes WantsOperand ('(' :: (['(', ')', ' ', '=', '>', ' '] ++ v ++ [')']))
        (fun _ => True) EndsOperand :=
      passes_operandGroup (by decide) (harrow.seq ih)
    exact hgroup.seq hempty
  | array _ ih => exact passes_operandGroup (by decide) (passes_commaSeparated ih)

/-! ### Statements -/

lemma Expression.isTrimmed {v : List Char} (h : Expression v) : IsTrimmed v := by
  induction h with
  | identifier h => exact h.isTrimmed
  | digits hne h =>
    exact isTrimmed_of_isIdentifierPart hne fun d hd => isIdentifierPart_of_isDigit (h d hd)
  | quoted hq _ =>
    rcases hq with rfl | rfl <;>
      exact isTrimmed_enclosed (by decide) (by decide) (by decide) _
  | template _ => exact isTrimmed_enclosed (by decide) (by decide) (by decide) _
  | @regex body flags _ _ _ hflags =>
    have hslash : IsTrimmed ['/'] := isTrimmed_singleton (by decide) (by decide)
    have hend : IsTrimmed ('/' :: flags) := by
      refine isTrimmed_of_forall (by simp) ?_
      rintro c (_ | ⟨_, hc⟩)
      · decide
      · have hpart := hflags c hc
        exact ⟨not_isBlank_of_isIdentifierPart hpart, ne_of_isIdentifierPart hpart (by decide),
          ne_of_isIdentifierPart hpart (by decide)⟩
    exact hslash.append hend
  | @call name args hname _ _ =>
    have hclose : IsTrimmed [')'] := isTrimmed_singleton (by decide) (by decide)
    have h : IsTrimmed (name ++ '(' :: commaSeparated args ++ [')']) := hname.isTrimmed.append hclose
    simpa using h
  | member _ hname ih => exact ih.append hname.isTrimmed
  | conditional _ _ _ itest iyes ino => exact (itest.append iyes).append ino
  | binary _ _ _ ileft iright => exact ileft.append iright
  | @function v _ _ =>
    have hgroup : IsTrimmed ('(' :: (['(', ')', ' ', '=', '>', ' '] ++ v ++ [')'])) :=
      isTrimmed_enclosed (by decide) (by decide) (by decide) _
    have hclose : IsTrimmed [')'] := isTrimmed_singleton (by decide) (by decide)
    have h : IsTrimmed ('(' :: (['(', ')', ' ', '=', '>', ' '] ++ v ++ [')']) ++ ['('] ++ [')']) :=
      hgroup.append hclose
    simpa using h
  | array _ _ => exact isTrimmed_enclosed (by decide) (by decide) (by decide) _

section Statements

variable {w₀ w₁ w₂ w₃ target v : List Char}

/-- Every assignment of an expression to a target is replaced, whatever the blanks in it. -/
theorem replace_expression (c : InitializerCall) (h₀ : Blanks w₀) (h₁ : Blanks w₁) (h₂ : Blanks w₂)
    (h₃ : Blanks w₃) (ht : IsTarget target) (hv : Expression v) :
    c.replace (String.ofList (w₀ ++ target ++ w₁ ++ '=' :: (w₂ ++ v ++ ';' :: w₃))) =
      .ok (String.ofList target ++ " = " ++ c.initializer ++ "(" ++ singleQuoted c.entryName ++
        ");") := by
  have hparse := parse_simpleParts h₀ h₁ h₂ h₃ ht hv.isTrimmed (passes_expression hv)
    (stops_of_mem_operandEnds (by decide) w₃)
  have hsource : (simpleParts w₀ target w₁ w₂ v w₃).source =
      w₀ ++ target ++ w₁ ++ '=' :: (w₂ ++ v ++ ';' :: w₃) := by
    simp [simpleParts, Parts.source, Parts.expression]
  rw [hsource] at hparse
  rw [InitializerCall.replace, hparse]
  simp [Except.map, simpleParts, Parts.assignment, InitializerCall.assignTo, InitializerCall.text,
    String.append_assoc]

/-- A division, a regular expression, an arrow and a comparison in one statement. -/
theorem replace_expression_nested :
    Blanks ['\n'] ∧ Blanks [] ∧ IsTarget "a['p']".toList ∧
      Expression "(() => x / f(/[=;]/g, 'c') >= 1)()".toList ∧
      InitializerCall.replace ⟨"set", "it's"⟩ (String.ofList (['\n'] ++ "a['p']".toList ++ [] ++
        '=' :: ([] ++ "(() => x / f(/[=;]/g, 'c') >= 1)()".toList ++ ';' :: ['\n']))) =
      .ok (String.ofList "a['p']".toList ++ " = " ++ "set" ++ "(" ++ singleQuoted "it's" ++ ");") := by
  have hblank : Blanks ['\n'] := blanks_singleton rfl
  have hscan : scanTarget 0 "a['p']".toList = .ok ("a['p']".toList, []) := by
    decide +kernel
  have htarget := (isTarget_of_scanTarget hscan).1
  have hx : Expression ['x'] := .identifier (.mk (by decide) (by simp))
  have hclass : ClassBody ['=', ';'] :=
    .plain (by decide) (by decide) (by decide) (.plain (by decide) (by decide) (by decide) .nil)
  have hg : isIdentifierPart 'g' = true := by
    decide
  have hregex : Expression ('/' :: ('[' :: (['=', ';'] ++ ']' :: []) ++ '/' :: ['g'])) :=
    .regex (by simp) (.charClass hclass .nil) (stops_cons.mpr rfl) (by simp [hg])
  have hquoted : Expression ('\'' :: (['c'] ++ ['\''])) :=
    .quoted (.inr rfl) (.plain (by decide) (by decide) (by decide) .nil)
  have hargs : ∀ v ∈ ['/' :: ('[' :: (['=', ';'] ++ ']' :: []) ++ '/' :: ['g']),
      '\'' :: (['c'] ++ ['\''])], Expression v := by
    rintro v (_ | ⟨_, _ | ⟨_, hv⟩⟩)
    · exact hregex
    · exact hquoted
    · cases hv
  have hf : IsIdentifier ['f'] := .mk (by decide) (by simp)
  have hone : Expression ['1'] := .digits (by simp) (by simp)
  have hslash : ['/'] ∈ operators := by decide
  have hatLeast : ['>', '='] ∈ operators := by decide
  have hv : Expression "(() => x / f(/[=;]/g, 'c') >= 1)()".toList := by
    have h := Expression.function (.binary (.binary hx hslash (.call hf hargs)) hatLeast hone)
    exact h
  exact ⟨hblank, blanks_nil, htarget, hv,
    replace_expression _ hblank blanks_nil blanks_nil hblank htarget hv⟩

end Statements

end PublicPath.Proofs
