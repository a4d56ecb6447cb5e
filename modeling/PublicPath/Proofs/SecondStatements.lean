import PublicPath.Proofs.Replacement

/-!
# Second statements

A statement that follows an assignment is found where a semicolon ends the assignment. Where nothing
but white space stands between the two, a line break as much as a space, the second statement is
read as part of the value, and a replacement drops it.
-/

namespace PublicPath.Proofs
open Text Statement

/-- An assignment and a call without arguments, with a text between them. -/
def twoStatements (target value between name : List Char) : String :=
  String.ofList (target ++ [' '] ++ '=' :: ' ' :: (value ++ between ++ (name ++ ['(', ')', ';'])))

/-- The text in front of the second statement. -/
def firstStatement (target value between : List Char) : List Char :=
  target ++ [' '] ++ '=' :: ' ' :: (value ++ between)

section Statements

variable {target body name w : List Char} {q : Char}

lemma isQuote_of_eq (hq : q = '"' ∨ q = '\'') : isQuote q = true := by
  rcases hq with rfl | rfl <;> rfl

lemma isTrimmed_literal (hq : q = '"' ∨ q = '\'') : IsTrimmed (q :: (body ++ [q])) := by
  rcases hq with rfl | rfl <;> exact isTrimmed_enclosed (by decide) (by decide) (by decide) body

lemma passes_literal_call {pre : Char → Prop} (hq : q = '"' ∨ q = '\'') (h : QuotedBody q body)
    (hw : Blanks w) (hname : IsIdentifier name) :
    Passes pre (q :: (body ++ [q]) ++ w ++ (name ++ ['(', ')'])) (fun _ => True) (· = ')') := by
  have hliteral : Passes pre (q :: (body ++ [q]) ++ w) (fun _ => True) EndsOperand :=
    (passes_quoted (isQuote_of_eq hq) h).seq (passes_blanks hw)
  have hinside : Passes (· = '(') [] (fun _ => True) (· = '(') := passes_nil
  have hgroup : Passes EndsOperand ('(' :: ([] ++ [')'])) (fun _ => True) (· = ')') :=
    passes_group rfl rfl hinside (fun _ => trivial)
  exact hliteral.seq ((passes_identifier hname).seq hgroup)

lemma parse_behind_blanks (ht : IsTarget target) (hq : q = '"' ∨ q = '\'') (h : QuotedBody q body)
    (hw : Blanks w) (hname : IsIdentifier name) :
    ∃ a, Assignment.parse (twoStatements target (q :: (body ++ [q])) w name) = .ok a ∧
      a.target = String.ofList target ∧
      a.value = String.ofList (q :: (body ++ [q]) ++ w ++ (name ++ ['(', ')'])) := by
  have hspace : Blanks [' '] := blanks_singleton rfl
  have hcall : IsTrimmed (name ++ [] ++ '(' :: ([] ++ [')'])) :=
    hname.isTrimmed.append (isTrimmed_enclosed (by decide) (by decide) (by decide) [])
  rw [List.append_nil] at hcall
  have hliteral : IsTrimmed (q :: (body ++ [q])) := isTrimmed_literal hq
  have hvalue : IsTrimmed (q :: (body ++ [q]) ++ w ++ (name ++ '(' :: ([] ++ [')']))) :=
    hliteral.append hcall
  have hparse := parse_simpleParts blanks_nil hspace hspace blanks_nil ht hvalue
    (passes_literal_call hq h hw hname) trivial
  have hsource : String.ofList (simpleParts [] target [' '] [' ']
      (q :: (body ++ [q]) ++ w ++ (name ++ ['(', ')'])) []).source =
        twoStatements target (q :: (body ++ [q])) w name := by
    simp [simpleParts, Parts.source, Parts.expression, twoStatements]
  exact ⟨_, hsource ▸ hparse, rfl, rfl⟩

lemma parse_behind_semicolon (ht : IsTarget target) (hq : q = '"' ∨ q = '\'')
    (h : QuotedBody q body) (hw : Blanks w) {w' : List Char} (hw' : Blanks w')
    (hname : IsIdentifier name) :
    Assignment.parse (twoStatements target (q :: (body ++ [q])) (w ++ ';' :: w') name) =
      .error (.trailingCode
        (byteLength (firstStatement target (q :: (body ++ [q])) (w ++ ';' :: w')))) := by
  have hspace : Blanks [' '] := blanks_singleton rfl
  have hliteral : Passes WantsOperand ([' '] ++ (q :: (body ++ [q]) ++ w)) (fun _ => True)
      EndsOperand :=
    (passes_blanks hspace).seq ((passes_quoted (isQuote_of_eq hq) h).seq (passes_blanks hw))
  cases hname with
  | @mk c cs hc hcs =>
    have hpart := isIdentifierPart_of_isIdentifierStart hc
    have hcode := not_startsComment_of_ne (ne_of_isIdentifierPart hpart (by decide))
      (cs ++ ['(', ')', ';'])
    have hparse := parse_trailingCode blanks_nil ht hspace (stops_cons.mpr rfl) hliteral trivial hw'
      (not_isBlank_of_isIdentifierPart hpart) hcode
    simpa only [twoStatements, firstStatement, List.nil_append, List.cons_append,
      List.append_assoc] using hparse

/-- A second statement is told from the first one by a semicolon and by nothing else. Behind white
space alone it becomes part of the value, so that a replacement drops it. -/
theorem parse_twoStatements (ht : IsTarget target) (hq : q = '"' ∨ q = '\'')
    (h : QuotedBody q body) (hw : Blanks w) (hname : IsIdentifier name) :
    (∃ a, Assignment.parse (twoStatements target (q :: (body ++ [q])) w name) = .ok a ∧
      a.target = String.ofList target ∧
      a.value = String.ofList (q :: (body ++ [q]) ++ w ++ (name ++ ['(', ')'])) ∧
      ∀ c : InitializerCall, c.replace (twoStatements target (q :: (body ++ [q])) w name) =
        .ok (c.assignTo (String.ofList target))) ∧
    ∀ w', Blanks w' →
      Assignment.parse (twoStatements target (q :: (body ++ [q])) (w ++ ';' :: w') name) =
        .error (.trailingCode
          (byteLength (firstStatement target (q :: (body ++ [q])) (w ++ ';' :: w')))) := by
  constructor
  · obtain ⟨a, hparse, htarget, hvalue⟩ := parse_behind_blanks ht hq h hw hname
    refine ⟨a, hparse, htarget, hvalue, fun c => ?_⟩
    rw [InitializerCall.replace, hparse, ← htarget]
    rfl
  · intro w' hw'
    exact parse_behind_semicolon ht hq h hw hw' hname

end Statements

/-- A key with a dot in the target, an escaped quote in the literal, a line feed between the
statements. -/
theorem parse_twoStatements_lineFeed :
    IsTarget "r['a.b']".toList ∧ QuotedBody '"' ['/', '\\', '"'] ∧ Blanks ['\n'] ∧
      IsIdentifier ['g', 'o'] ∧
      twoStatements "r['a.b']".toList ('"' :: (['/', '\\', '"'] ++ ['"'])) ['\n'] ['g', 'o'] =
        "r['a.b'] = \"/\\\"\"\ngo();" ∧
      (∃ a, Assignment.parse (twoStatements "r['a.b']".toList
          ('"' :: (['/', '\\', '"'] ++ ['"'])) ['\n'] ['g', 'o']) = .ok a ∧
        a.target = String.ofList "r['a.b']".toList ∧
        a.value = String.ofList ('"' :: (['/', '\\', '"'] ++ ['"']) ++ ['\n'] ++
          (['g', 'o'] ++ ['(', ')'])) ∧
        ∀ c : InitializerCall, c.replace (twoStatements "r['a.b']".toList
          ('"' :: (['/', '\\', '"'] ++ ['"'])) ['\n'] ['g', 'o']) =
            .ok (c.assignTo (String.ofList "r['a.b']".toList))) ∧
      ∀ w', Blanks w' → Assignment.parse (twoStatements "r['a.b']".toList
          ('"' :: (['/', '\\', '"'] ++ ['"'])) (['\n'] ++ ';' :: w') ['g', 'o']) =
        .error (.trailingCode (byteLength (firstStatement "r['a.b']".toList
          ('"' :: (['/', '\\', '"'] ++ ['"'])) (['\n'] ++ ';' :: w')))) := by
  have hscan : scanTarget 0 "r['a.b']".toList = .ok ("r['a.b']".toList, []) := by
    decide +kernel
  have hcall : scanIdentifier 0 ['g', 'o'] = .ok (['g', 'o'], []) := by
    decide +kernel
  have ht := (isTarget_of_scanTarget hscan).1
  have hname := isIdentifier_of_scanIdentifier hcall
  have hbody : QuotedBody '"' ['/', '\\', '"'] :=
    .plain (by decide) (by decide) (by decide) (.escape '"' .nil)
  have hw : Blanks ['\n'] := blanks_singleton rfl
  exact ⟨ht, hbody, hw, hname, by decide +kernel,
    parse_twoStatements ht (.inl rfl) hbody hw hname⟩

/-- Two statements that a line feed alone separates are replaced as one. -/
theorem replace_drops_call :
    IsTarget ['x'] ∧ QuotedBody '\'' ['a'] ∧ IsIdentifier ['f'] ∧
      Assignment.parse "x = 'a'\nf();" = .ok ⟨"x", "'a'\nf()", ⟨0, 1⟩, ⟨4, 11⟩⟩ ∧
      InitializerCall.replace ⟨"setPath", "checkout"⟩ "x = 'a'\nf();" =
        .ok "x = setPath('checkout');" := by
  have hx : IsIdentifier ['x'] := .mk rfl (by simp)
  have hf : IsIdentifier ['f'] := .mk rfl (by simp)
  have hbody : QuotedBody '\'' ['a'] := .plain (by decide) (by decide) (by decide) .nil
  exact ⟨hx.isTarget, hbody, hf, by decide +kernel, by decide +kernel⟩

end PublicPath.Proofs
