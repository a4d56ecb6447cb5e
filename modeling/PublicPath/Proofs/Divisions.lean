import PublicPath.Proofs.BundlerExpressions
import PublicPath.Proofs.InitializerValues

/-!
# Divisions

Whether a slash behind a value is a division depends on the last lexeme of the value alone. Behind
a name, a number, a literal or a group in round or square brackets it is one. A closing brace, an
increment and a decrement end operands too, but their last marks also stand in front of operands,
and a slash behind them is always read as the start of a regular expression.
-/

namespace PublicPath.Proofs
open Text Statement

/-- A text behind the operator of an assignment. -/
def assigning (target e : List Char) : String :=
  String.ofList (target ++ [' '] ++ '=' :: ' ' :: (e ++ [';']))

def divided (e name : List Char) : List Char := e ++ ([' ', '/', ' '] ++ name)

/-- The last lexeme of a name or a number, of a literal, or of a group in round or square
brackets. -/
inductive EndsDivisible : Lexeme → Prop
  | name {c : Char} (h : isIdentifierPart c = true) : EndsDivisible (.mark c)
  | point : EndsDivisible (.mark '.')
  | quoted {q : Char} (hq : isQuote q = true) (text : List Char) : EndsDivisible (.quoted q text)
  | regex (text : List Char) : EndsDivisible (.regex text)
  | group {c : Char} (h : c = ')' ∨ c = ']') : EndsDivisible (.mark c)

/-- The marks that end an operand as well as they stand in front of one: the brace behind an object,
and what an increment or a decrement is made of. -/
def ambiguousMarks : List Char := ['\x7d', '+', '-']

lemma endsOperand_of_endsDivisible {x : Lexeme} (h : EndsDivisible x) (last : Char) :
    EndsOperand (remembered last x) := by
  cases h with
  | name h => exact endsOperand_of_isIdentifierPart h
  | point => rfl
  | quoted hq text =>
    simp only [isQuote, Bool.or_eq_true, beq_iff_eq] at hq
    rcases hq with (rfl | rfl) | rfl <;> rfl
  | regex text => rfl
  | group h => rcases h with rfl | rfl <;> rfl

lemma wantsOperand_of_mem_ambiguousMarks {c : Char} (h : c ∈ ambiguousMarks) : WantsOperand c := by
  simp only [ambiguousMarks, List.mem_cons, List.not_mem_nil, or_false] at h
  rcases h with rfl | rfl | rfl <;> rfl

/-! ### Values in front of a slash -/

lemma isFollower_space : IsFollower ' ' := by
  constructor
  · decide
  · exact not_isIdentifierPart_of_isBlank rfl
  · intro d cs
    simp [StartsComment]
  · intro d
    simp [isComparison]

lemma significant_of_reads_concat {after : List Char} {offset : Nat} {s t : Context}
    {front : List Lexeme} {x : Lexeme} (h : Reads after offset s (front ++ [x]) t) :
    ∃ last, t.significant = remembered last x := by
  obtain ⟨u, -, hback⟩ := h.split
  cases hback with
  | cons hx hstep hnil =>
    cases hnil
    exact ⟨_, remembered_of_contextStep hstep⟩

section Value

variable {target e name : List Char} {a : Assignment} {xs front : List Lexeme} {x : Lexeme}

/-- What is read as a whole value in front of a semicolon is read in front of a blank too. -/
lemma reads_value (ht : IsTarget target) (h : Assignment.parse (assigning target e) = .ok a)
    (hvalue : a.value = String.ofList e) (hxs : Lexed [';'] '=' xs) (htext : textOf xs = ' ' :: e)
    (offset : Nat) (after : List Char) :
    ∃ t, Reads (' ' :: after) offset .start xs t ∧ t.opened = [] := by
  obtain ⟨-, -, ys, hys, hexpression⟩ := expression_of_value ht h hvalue
  obtain rfl := hxs.unique hexpression.lexed (htext.trans hys.symm)
  obtain ⟨t, hreads, hopened⟩ := reads_of_isExpression hexpression offset
  exact ⟨t, reads_follow (isFollower_of_mem (by decide)) isFollower_space hreads, hopened⟩

lemma passes_divisor (hname : IsIdentifier name) {follow : List Char → Prop} :
    Passes EndsOperand ([' ', '/', ' '] ++ name) follow EndsOperand := by
  have hslash : Passes EndsOperand (['/'] ++ [' ']) (fun _ => True) WantsOperand :=
    passes_slash.append passes_space (fun _ _ => rfl)
  have hspaced : Passes EndsOperand ([' '] ++ (['/'] ++ [' '])) (fun _ => True) WantsOperand :=
    passes_space.seq hslash
  exact hspaced.seq (passes_identifier hname)

lemma skipBlanks_divided (hne : e ≠ []) (hfront : Stops isBlank e) (hname : IsIdentifier name) :
    dropEndWhile isBlank (skipBlanks (divided e name)) = divided e name := by
  have hstops : Stops isBlank (divided e name) := (stops_append hne).mpr hfront
  have hskip : skipBlanks (divided e name) = divided e name := skipBlanks_run blanks_nil hstops
  have hback : Stops isBlank (divided e name).reverse := by
    rw [divided, List.reverse_append, List.reverse_append, List.append_assoc]
    exact (stops_append (by simp [hname.isTrimmed.ne_nil])).mpr hname.isTrimmed.back
  have hdrop := dropEndWhile_run blanks_nil hback
  rw [List.append_nil] at hdrop
  rw [hskip, hdrop]

lemma parse_divided_of_endsDivisible (ht : IsTarget target) (hname : IsIdentifier name)
    (h : Assignment.parse (assigning target e) = .ok a) (hvalue : a.value = String.ofList e)
    (hxs : Lexed [';'] '=' (front ++ [x])) (htext : textOf (front ++ [x]) = ' ' :: e)
    (hx : EndsDivisible x) :
    ∃ b, Assignment.parse (assigning target (divided e name)) = .ok b ∧
      b.target = String.ofList target ∧ b.value = String.ofList (divided e name) := by
  obtain ⟨t, hreads, hopened⟩ := reads_value ht h hvalue hxs htext 0 ('/' :: ' ' :: (name ++ [';']))
  obtain ⟨last, hlast⟩ := significant_of_reads_concat hreads
  have hends : EndsOperand t.significant := hlast ▸ endsOperand_of_endsDivisible hx last
  have hdivisor : Passes EndsOperand ([' ', '/', ' '] ++ name) (fun _ => True) EndsOperand :=
    passes_divisor hname
  obtain ⟨u, ⟨zs, hzs, hmore⟩, hu, -⟩ :=
    hdivisor [';'] (0 + byteLength (textOf (front ++ [x]))) t hends trivial
  have hfront : Reads (textOf zs ++ [';']) 0 .start (front ++ [x]) t := by
    rwa [hzs, List.append_assoc]
  have hexpression := isExpression_of_reads (hfront.append hmore) (hu.trans hopened)
  have hwhole : textOf (front ++ [x] ++ zs) = ' ' :: divided e name := by
    rw [textOf_append, htext, hzs]
    rfl
  obtain ⟨hne, hstops, -⟩ := expression_of_value ht h hvalue
  have htrim := skipBlanks_divided hne hstops hname
  obtain ⟨b, hparse, htarget, hb⟩ := parse_spaced_of_expression ht hwhole rfl (.semicolon .nil)
    hexpression (by rw [htrim]; simp [divided])
  exact ⟨b, hparse, htarget, htrim ▸ hb⟩

lemma parse_divided_of_ambiguous (ht : IsTarget target) (hname : IsIdentifier name)
    (h : Assignment.parse (assigning target e) = .ok a) (hvalue : a.value = String.ofList e)
    {c : Char} (hxs : Lexed [';'] '=' (front ++ [.mark c]))
    (htext : textOf (front ++ [.mark c]) = ' ' :: e) (hc : c ∈ ambiguousMarks) :
    Assignment.parse (assigning target (divided e name)) =
      .error (.unterminatedLiteral '/'
        (byteLength (target ++ [' '] ++ '=' :: ' ' :: (e ++ [' '])))) := by
  have hspace : Blanks [' '] := blanks_singleton rfl
  obtain ⟨t, hreads, -⟩ := reads_value ht h hvalue hxs htext
    (byteLength ([] ++ target ++ [' ']) + 1) ('/' :: ' ' :: (name ++ [';']))
  obtain ⟨last, hlast⟩ := significant_of_reads_concat hreads
  have hwants : startsOperand t.significant = true := hlast ▸ wantsOperand_of_mem_ambiguousMarks hc
  have hblank : ∀ offset, Reads ('/' :: ' ' :: (name ++ [';'])) offset t [.blank ' ']
      { t with previous := ' ' } := fun _ => .cons (.blank rfl) (.blank ' ') (.nil _ _)
  have hslash : '/' ∉ ' ' :: (name ++ [';']) := by
    have hpart : '/' ∉ name := fun hm => ne_of_isIdentifierPart (hname.part _ hm) (by decide) rfl
    simp [hpart]
  have hnext : Lexeme.next t.significant '/' (' ' :: (name ++ [';'])) = .error '/' := by
    have hcomment : Comment.read ('/' :: ' ' :: (name ++ [';'])) = .absent := by
      simp [read_eq_absent_iff, StartsComment]
    rw [Lexeme.next, hcomment]
    simp [closeRegex_eq_none hslash, hwants, show isBlank '/' = false from rfl]
  have hparse := parse_of_scanError blanks_nil ht hspace
    (by rw [textOf_append, htext]; exact stops_cons.mpr rfl) (hreads.append (hblank _))
    (scanValue_unclosed (s := { t with previous := ' ' }) hnext _)
  rw [textOf_append, htext] at hparse
  simpa [assigning, divided, Lexeme.text] using hparse

/-- A slash behind a value that ends in a name, a number, a literal or a group is a division. Behind
a brace, an increment or a decrement it opens a regular expression that never ends, so that the
statement is refused. -/
theorem parse_divided (ht : IsTarget target) (hname : IsIdentifier name)
    (h : Assignment.parse (assigning target e) = .ok a) (hvalue : a.value = String.ofList e)
    (hxs : Lexed [';'] '=' (front ++ [x])) (htext : textOf (front ++ [x]) = ' ' :: e) :
    (EndsDivisible x → ∃ b, Assignment.parse (assigning target (divided e name)) = .ok b ∧
      b.target = String.ofList target ∧ b.value = String.ofList (divided e name)) ∧
    ∀ c ∈ ambiguousMarks, x = .mark c →
      Assignment.parse (assigning target (divided e name)) =
        .error (.unterminatedLiteral '/'
          (byteLength (target ++ [' '] ++ '=' :: ' ' :: (e ++ [' '])))) := by
  constructor
  · exact parse_divided_of_endsDivisible ht hname h hvalue hxs htext
  · rintro c hc rfl
    exact parse_divided_of_ambiguous ht hname h hvalue hxs htext hc

end Value

/-- A slash in a literal, and a group at the end. -/
theorem parse_divided_call :
    IsTarget ['r', '.', 'p'] ∧ IsIdentifier ['b'] ∧
      assigning ['r', '.', 'p'] "f('/')".toList = "r.p = f('/');" ∧
      Assignment.parse (assigning ['r', '.', 'p'] "f('/')".toList) =
        .ok ⟨"r.p", "f('/')", ⟨0, 3⟩, ⟨6, 12⟩⟩ ∧
      Lexed [';'] '=' ([.blank ' ', .mark 'f', .mark '(', .quoted '\'' ['\'', '/', '\'']] ++
        [.mark ')']) ∧
      EndsDivisible (.mark ')') ∧
      (EndsDivisible (.mark ')') →
        ∃ b, Assignment.parse (assigning ['r', '.', 'p'] (divided "f('/')".toList ['b'])) = .ok b ∧
          b.target = String.ofList ['r', '.', 'p'] ∧
          b.value = String.ofList (divided "f('/')".toList ['b'])) ∧
      ∀ c ∈ ambiguousMarks, (.mark ')' : Lexeme) = .mark c →
        Assignment.parse (assigning ['r', '.', 'p'] (divided "f('/')".toList ['b'])) =
          .error (.unterminatedLiteral '/' (byteLength
            (['r', '.', 'p'] ++ [' '] ++ '=' :: ' ' :: ("f('/')".toList ++ [' '])))) := by
  have hscan : scanTarget 0 ['r', '.', 'p'] = .ok (['r', '.', 'p'], []) := by
    decide +kernel
  have ht := (isTarget_of_scanTarget hscan).1
  have hname : IsIdentifier ['b'] := .mk (by decide) (by simp)
  have hparse : Assignment.parse (assigning ['r', '.', 'p'] "f('/')".toList) =
      .ok ⟨"r.p", "f('/')", ⟨0, 3⟩, ⟨6, 12⟩⟩ := by
    decide +kernel
  have hf : Lexeme.next '=' 'f' "('/');".toList = .ok (.mark 'f', "('/');".toList) := by
    decide +kernel
  have hopen : Lexeme.next 'f' '(' "'/');".toList = .ok (.mark '(', "'/');".toList) := by
    decide +kernel
  have hquoted : Lexeme.next '(' '\'' "/');".toList =
      .ok (.quoted '\'' ['\'', '/', '\''], ");".toList) := by
    decide +kernel
  have hclose : Lexeme.next '\'' ')' [';'] = .ok (.mark ')', [';']) := by
    decide +kernel
  have hlexed : Lexed [';'] '=' ([.blank ' ', .mark 'f', .mark '(',
      .quoted '\'' ['\'', '/', '\'']] ++ [.mark ')']) :=
    .cons (.blank rfl) (.cons (isLexeme_of_next hf) (.cons (isLexeme_of_next hopen)
      (.cons (isLexeme_of_next hquoted) (.cons (isLexeme_of_next hclose) (.nil _)))))
  exact ⟨ht, hname, by decide +kernel, hparse, hlexed, .group (.inl rfl),
    parse_divided ht hname hparse rfl hlexed rfl⟩

/-- A division behind an increment is refused, and two of them make a regular expression of the
statements between them. -/
theorem division_of_increment :
    IsTarget ['x'] ∧ IsIdentifier ['b'] ∧
      Assignment.parse "x = i++;" = .ok ⟨"x", "i++", ⟨0, 1⟩, ⟨4, 7⟩⟩ ∧
      Assignment.parse "x = i++ / b;" = .error (.unterminatedLiteral '/' 8) ∧
      Assignment.parse "x = i++ / b; y = c / d;" =
        .ok ⟨"x", "i++ / b; y = c / d", ⟨0, 1⟩, ⟨4, 22⟩⟩ ∧
      InitializerCall.replace ⟨"setPath", "checkout"⟩ "x = i++ / b; y = c / d;" =
        .ok "x = setPath('checkout');" := by
  have hx : IsIdentifier ['x'] := .mk rfl (by simp)
  have hb : IsIdentifier ['b'] := .mk rfl (by simp)
  refine ⟨hx.isTarget, hb, ?_, ?_, ?_, ?_⟩ <;> decide +kernel

end PublicPath.Proofs
