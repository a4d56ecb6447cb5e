import PublicPath.Proofs.EndedStatements

/-!
# Line comments

What stands behind the semicolon of a statement is checked and has no other part in what is read. A
line comment there hides code up to the next line feed, whereas three other characters end a line
of the script language too: code behind one of these is never seen, and a replacement drops it.
-/

namespace PublicPath.Proofs
open Text Statement

/-- The characters that end a line of the script language, and with it a line comment. -/
def lineTerminators : List Char := ['\n', '\r', '\u2028', '\u2029']

/-- Nothing but white space and a semicolon stands behind the value. -/
def EndsInSemicolon (source : String) (a : Assignment) : Prop :=
  ∃ front w, source.toList = front ++ w ++ [';'] ∧ Blanks w ∧ byteLength front = a.valueSpan.stop

/-- A line comment, the character that ends its line, and a call on the next one. -/
def callBehindComment (body : List Char) (l : Char) (name : List Char) : List Char :=
  '/' :: '/' :: (body ++ l :: (name ++ ['(', ')', ';']))

/-- A text behind the semicolon of an assignment is only checked. -/
theorem parse_append {source : String} {a : Assignment} (h : Assignment.parse source = .ok a)
    (hend : EndsInSemicolon source a) (more : List Char) :
    Assignment.parse (source ++ String.ofList more) =
      (checkTrailing (byteLength source.toList) more).map fun _ => a :=
  parse_append_trivia h hend .nil

/-! ### Calls behind a comment -/

section Calls

variable {source : String} {a : Assignment} {body name : List Char} {l : Char}

lemma checkTrailing_call (hbody : '\n' ∉ body) (hname : IsIdentifier name) (offset : Nat) :
    checkTrailing offset (callBehindComment body '\n' name) =
      .error (.trailingCode (offset + byteLength ('/' :: '/' :: (body ++ ['\n'])))) := by
  have hcomment : IsComment ('\n' :: (name ++ ['(', ')', ';'])) ('/' :: '/' :: body) :=
    .line hbody (stops_cons.mpr rfl)
  have hfeed : Blanks ['\n'] := blanks_singleton rfl
  have hwhole : callBehindComment body '\n' name =
      ('/' :: '/' :: body) ++ ('\n' :: (name ++ ['(', ')', ';'])) := rfl
  rw [hwhole, checkTrailing_comment hcomment]
  cases hname with
  | @mk c cs hc hcs =>
    have hpart := isIdentifierPart_of_isIdentifierStart hc
    have hcode := not_startsComment_of_ne (ne_of_isIdentifierPart hpart (by decide))
      (cs ++ ['(', ')', ';'])
    have hcheck := checkTrailing_code hfeed (not_isBlank_of_isIdentifierPart hpart) hcode
      (offset + byteLength ('/' :: '/' :: body))
    exact hcheck.trans (by simp [Nat.add_assoc])

lemma isTrivia_call (hbody : '\n' ∉ body) (hl : l ≠ '\n') (hname : IsIdentifier name) :
    IsTrivia (callBehindComment body l name) := by
  have hpart : '\n' ∉ name := by
    intro hn
    have hblank := not_isBlank_of_isIdentifierPart (hname.part _ hn)
    cases hblank
  have hcomment : IsComment [] (callBehindComment body l name) :=
    .line (by simp [hbody, hl.symm, hpart]) stops_nil
  simpa using IsTrivia.comment hcomment .nil

/-- A call on the line behind a comment is reported if a line feed ends the comment. Behind the
other three ends of a line it is taken for a part of the comment, so that a replacement drops it. -/
theorem parse_callBehindComment (h : Assignment.parse source = .ok a)
    (hend : EndsInSemicolon source a) (hbody : ∀ c ∈ body, c ∉ lineTerminators)
    (hl : l ∈ lineTerminators) (hname : IsIdentifier name) :
    (l = '\n' →
      Assignment.parse (source ++ String.ofList (callBehindComment body l name)) =
        .error (.trailingCode
          (byteLength source.toList + byteLength ('/' :: '/' :: (body ++ [l]))))) ∧
    (l ≠ '\n' →
      Assignment.parse (source ++ String.ofList (callBehindComment body l name)) = .ok a ∧
      ∀ c : InitializerCall,
        c.replace (source ++ String.ofList (callBehindComment body l name)) =
          .ok (c.assignTo a.target)) := by
  have hfeed : '\n' ∉ body := fun hn => hbody _ hn (by decide)
  constructor
  · rintro rfl
    rw [parse_append h hend, checkTrailing_call hfeed hname]
    rfl
  · intro hne
    have hparse := parse_append h hend (callBehindComment body l name)
    rw [checkTrailing_of (isTrivia_call hfeed hne hname)] at hparse
    exact ⟨hparse, replace_of_parse hparse⟩

end Calls

/-- A comment in front of the semicolon, one that looks like the end of a comment, and a paragraph
separator. -/
theorem parse_callBehindComment_paragraph :
    Assignment.parse "r.p = 'a//b' /* c */ ;" = .ok ⟨"r.p", "'a//b' /* c */", ⟨0, 3⟩, ⟨6, 20⟩⟩ ∧
      EndsInSemicolon "r.p = 'a//b' /* c */ ;" ⟨"r.p", "'a//b' /* c */", ⟨0, 3⟩, ⟨6, 20⟩⟩ ∧
      (∀ c ∈ ['*', '/', ';'], c ∉ lineTerminators) ∧ '\u2029' ∈ lineTerminators ∧
      IsIdentifier ['g', 'o'] ∧
      ('\u2029' = '\n' →
        Assignment.parse ("r.p = 'a//b' /* c */ ;" ++
            String.ofList (callBehindComment ['*', '/', ';'] '\u2029' ['g', 'o'])) =
          .error (.trailingCode (byteLength "r.p = 'a//b' /* c */ ;".toList +
            byteLength ('/' :: '/' :: (['*', '/', ';'] ++ ['\u2029']))))) ∧
      ('\u2029' ≠ '\n' →
        Assignment.parse ("r.p = 'a//b' /* c */ ;" ++
            String.ofList (callBehindComment ['*', '/', ';'] '\u2029' ['g', 'o'])) =
          .ok ⟨"r.p", "'a//b' /* c */", ⟨0, 3⟩, ⟨6, 20⟩⟩ ∧
        ∀ c : InitializerCall, c.replace ("r.p = 'a//b' /* c */ ;" ++
            String.ofList (callBehindComment ['*', '/', ';'] '\u2029' ['g', 'o'])) =
          .ok (c.assignTo "r.p")) := by
  have hparse : Assignment.parse "r.p = 'a//b' /* c */ ;" =
      .ok ⟨"r.p", "'a//b' /* c */", ⟨0, 3⟩, ⟨6, 20⟩⟩ := by
    decide +kernel
  have hend : EndsInSemicolon "r.p = 'a//b' /* c */ ;"
      ⟨"r.p", "'a//b' /* c */", ⟨0, 3⟩, ⟨6, 20⟩⟩ :=
    ⟨"r.p = 'a//b' /* c */".toList, [' '], by decide +kernel, blanks_singleton rfl, by decide +kernel⟩
  have hbody : ∀ c ∈ ['*', '/', ';'], c ∉ lineTerminators := by
    simp [lineTerminators]
  have hl : '\u2029' ∈ lineTerminators := by
    simp [lineTerminators]
  have hscan : scanIdentifier 0 ['g', 'o'] = .ok (['g', 'o'], []) := by
    decide +kernel
  have hname := isIdentifier_of_scanIdentifier hscan
  exact ⟨hparse, hend, hbody, hl, hname, parse_callBehindComment hparse hend hbody hl hname⟩

/-- Of two line ends behind one comment, the parser sees the line feed only. -/
theorem replace_drops_commented :
    Assignment.parse "x = 1;" = .ok ⟨"x", "1", ⟨0, 1⟩, ⟨4, 5⟩⟩ ∧ '\r' ∈ lineTerminators ∧
      Assignment.parse "x = 1;//c\rf();" = .ok ⟨"x", "1", ⟨0, 1⟩, ⟨4, 5⟩⟩ ∧
      InitializerCall.replace ⟨"setPath", "checkout"⟩ "x = 1;//c\rf();" =
        .ok "x = setPath('checkout');" ∧
      Assignment.parse "x = 1;//c\nf();" = .error (.trailingCode 10) := by
  refine ⟨?_, ?_, ?_, ?_, ?_⟩ <;> decide +kernel

end PublicPath.Proofs
