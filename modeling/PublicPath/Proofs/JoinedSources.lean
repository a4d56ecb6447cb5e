import PublicPath.Proofs.EndedStatements

/-!
# Two assignments in one source

Where two assignments stand on lines of their own, the first one is read as before up to the line
feed. If a semicolon ended it, the target of the second one is code behind the statement. If not, the
second target is passed over as a part of the value, and its operator is found outside all brackets.
-/

namespace PublicPath.Proofs
open Text Statement

/-! ### What is remembered in front of an equals sign -/

/-- A mark that can make a comparison is remembered as the last character of both kinds. -/
def Agrees (s : Context) : Prop := Compares s.previous → s.significant = s.previous

lemma not_compares_of_isBlank {c : Char} (h : isBlank c = true) : ¬ Compares c := by
  rintro (rfl | rfl | rfl | rfl) <;> cases h

lemma Agrees.step {s t : Context} {offset : Nat} {after : Option Char} {x : Lexeme} {back : List Char}
    (h : Agrees s) (hx : IsLexeme s.significant back x) (hstep : ContextStep s offset after x t) :
    Agrees t := by
  cases hstep with
  | comment => exact h
  | blank c =>
    cases hx with
    | blank hc => exact fun hcompares => absurd hcompares (not_compares_of_isBlank hc)
  | regex => exact fun hcompares => absurd hcompares (by simp [Compares])
  | quoted | opens | closes | plain => exact fun _ => rfl

lemma Agrees.reads {s t : Context} {offset : Nat} {after : List Char} {xs : List Lexeme}
    (h : Agrees s) (hr : Reads after offset s xs t) : Agrees t := by
  induction hr with
  | nil => exact h
  | cons hx hstep _ ih => exact ih (h.step hx hstep)

lemma wantsOperand_of_compares {c : Char} (h : Compares c) : WantsOperand c := by
  rcases h with rfl | rfl | rfl | rfl <;> rfl

/-- Behind an operand, no mark of a comparison is in front of an equals sign. -/
lemma isComparison_eq_false {s : Context} {after : List Char} (h : Agrees s)
    (hs : EndsOperand s.significant) (hafter : Stops (fun c => c == '=' || c == '>') after) :
    isComparison s.previous after.head? = false := by
  by_contra hc
  rw [Bool.not_eq_false, isComparison_iff] at hc
  rcases hc with hc | ⟨c, hhead, hc⟩
  · rw [h hc, EndsOperand, wantsOperand_of_compares hc] at hs
    cases hs
  · have hstop := hafter c hhead
    rcases hc with rfl | rfl <;> cases hstop

/-! ### The line behind a statement -/

lemma IsTarget.exists_cons {target : List Char} (h : IsTarget target) :
    ∃ c cs, target = c :: cs ∧ isIdentifierPart c = true := by
  cases h with
  | mk hname _ =>
    cases hname with
    | mk hc _ => exact ⟨_, _, rfl, isIdentifierPart_of_isIdentifierStart hc⟩

lemma blanks_cons {c : Char} {cs : List Char} (hc : isBlank c = true) (h : Blanks cs) :
    Blanks (c :: cs) := by
  intro d hd
  rcases List.mem_cons.mp hd with rfl | hd
  · exact hc
  · exact h d hd

section Joined

variable {source₁ source₂ : String} {a b : Assignment}

lemma parse_behind_terminated (ha : Assignment.parse source₁ = .ok a)
    (hb : Assignment.parse source₂ = .ok b) (hend : IsTerminated source₁ a) :
    Assignment.parse (source₁ ++ "\n" ++ source₂) =
      .error (.trailingCode (byteLength source₁.toList + 1 + b.targetSpan.start)) := by
  obtain ⟨q, -, -, hsource₂, hlayout₂, -, -, -, rfl⟩ := reads_of_parse hb
  obtain ⟨c, target, htarget, hc⟩ := hlayout₂.target.exists_cons
  let code := target ++ q.gap ++ '=' :: (q.expression ++ q.ending)
  have hsource : source₂.toList = q.lead ++ c :: code := by
    rw [← hsource₂, Parts.source, htarget]
    simp [code]
  have hline : source₁ ++ "\n" ++ source₂ =
      source₁ ++ String.ofList ('\n' :: (q.lead ++ c :: code)) := by
    rw [← hsource, ← String.toList_inj]
    simp
  have hlead : Blanks ('\n' :: q.lead) := blanks_cons rfl hlayout₂.lead
  have hcode := not_startsComment_of_ne (ne_of_isIdentifierPart hc (by decide)) code
  have hcheck := checkTrailing_code hlead (not_isBlank_of_isIdentifierPart hc) hcode
    (byteLength source₁.toList)
  have hoffset : byteLength source₁.toList + byteLength ('\n' :: q.lead) =
      byteLength source₁.toList + 1 + q.assignment.targetSpan.start := by
    rw [← byteLength_append]
    exact byteLength_mark rfl source₁.toList q.lead
  rw [List.cons_append, hoffset] at hcheck
  rw [hline, parse_append_line ha hend, hcheck]
  rfl

/-- The target on the line behind a value is passed over, and its operator makes no comparison. -/
lemma reads_line {offset : Nat} {lead target gap rest : List Char} {xs : List Lexeme} {t : Context}
    (hreads : Reads [] offset .start xs t) (hopened : t.opened = []) (hlead : Blanks lead)
    (ht : IsTarget target) (hgap : Blanks gap) (hrest : Stops (fun c => c == '=' || c == '>') rest) :
    ∃ ys u, textOf ys = '\n' :: (lead ++ target ++ gap) ∧
      Reads ('=' :: rest) offset .start (xs ++ ys) u ∧ u.opened = [] ∧
      isComparison u.previous rest.head? = false := by
  have hpasses : Passes (fun _ => True) ('\n' :: lead ++ target ++ gap) (fun _ => True) EndsOperand := by
    have hblanks : Passes (fun _ => True) ('\n' :: lead) (fun _ => True) (fun _ => True) :=
      passes_blanks (blanks_cons rfl hlead)
    exact (hblanks.seq (passes_target ht)).seq (passes_blanks hgap)
  -- The value is read up to the line feed as up to the end of a source, then the line behind it.
  obtain ⟨u, ⟨ys, hys, hmore⟩, huopened, hends⟩ := hpasses ('=' :: rest)
    (offset + byteLength (textOf xs)) t trivial trivial
  have hfirst : Reads (textOf ys ++ '=' :: rest) offset .start xs t := by
    rw [hys]
    exact hreads.follow (followsAs_lineFeed _)
  have hboth := hfirst.append hmore
  have hagrees : Agrees u := Agrees.reads (fun _ => rfl) hboth
  exact ⟨ys, u, hys, hboth, huopened.trans hopened, isComparison_eq_false hagrees hends hrest⟩

lemma parse_behind_open (ha : Assignment.parse source₁ = .ok a)
    (hb : Assignment.parse source₂ = .ok b) (hend : ¬ IsTerminated source₁ a) :
    ∃ front gap rest, source₂.toList = front ++ gap ++ '=' :: rest ∧
      byteLength front = b.targetSpan.stop ∧ Blanks gap ∧
      Assignment.parse (source₁ ++ "\n" ++ source₂) =
        .error (.chainedAssignment (byteLength source₁.toList + 1 + byteLength (front ++ gap))) := by
  obtain ⟨p, xs, t, hsource₁, hlayout₁, hxs, hreads, hopened, rfl⟩ := reads_of_parse ha
  obtain ⟨q, -, -, hsource₂, hlayout₂, -, -, -, rfl⟩ := reads_of_parse hb
  have hending : p.ending = [] := by
    rwa [isTerminated_iff hsource₁ hlayout₁, not_not] at hend
  rw [hending] at hreads
  obtain ⟨ys, u, hys, hboth, huopened, hcompares⟩ :=
    reads_line hreads hopened hlayout₂.lead hlayout₂.target hlayout₂.gap hlayout₂.operator
  have hscan := scanValue_assignment huopened hcompares
  have hstatement : source₁.toList = p.lead ++ p.target ++ p.gap ++ '=' :: textOf xs := by
    rw [← hsource₁, Parts.source, hending, hxs, List.append_nil]
  refine ⟨q.lead ++ q.target, q.gap, q.expression ++ q.ending, hsource₂.symm, rfl, hlayout₂.gap, ?_⟩
  have hne : textOf xs ≠ [] := by
    rw [hxs]
    simp [Parts.expression, hlayout₁.value_ne_nil]
  have hoperator : Stops (fun c => c == '=' || c == '>')
      (textOf (xs ++ ys) ++ '=' :: (q.expression ++ q.ending)) := by
    have hfront := hlayout₁.operator
    rw [hending, ← hxs, List.append_nil] at hfront
    rw [textOf_append, List.append_assoc]
    exact (stops_append hne).mpr hfront
  have hparse := parse_of_scanError hlayout₁.lead hlayout₁.target hlayout₁.gap hoperator hboth
    (hscan _)
  have hline : String.ofList (p.lead ++ p.target ++ p.gap ++
      '=' :: (textOf (xs ++ ys) ++ '=' :: (q.expression ++ q.ending))) =
        source₁ ++ "\n" ++ source₂ := by
    rw [← String.toList_inj]
    simp [hstatement, ← hsource₂, Parts.source, hys]
  have hplace : byteLength (p.lead ++ p.target ++ p.gap ++ '=' :: textOf (xs ++ ys)) =
      byteLength source₁.toList + 1 + byteLength (q.lead ++ q.target ++ q.gap) := by
    rw [← byteLength_mark (c := '\n') rfl, hstatement, textOf_append, hys]
    simp
  rwa [hline, hplace] at hparse

/-- Two assignments on lines of their own are never taken for one: what is reported is the target of
the second one if a semicolon ended the first, and the operator of the second one if not. -/
theorem parse_joined (ha : Assignment.parse source₁ = .ok a) (hb : Assignment.parse source₂ = .ok b) :
    (IsTerminated source₁ a → Assignment.parse (source₁ ++ "\n" ++ source₂) =
      .error (.trailingCode (byteLength source₁.toList + 1 + b.targetSpan.start))) ∧
    (¬ IsTerminated source₁ a → ∃ front gap rest, source₂.toList = front ++ gap ++ '=' :: rest ∧
      byteLength front = b.targetSpan.stop ∧ Blanks gap ∧
      Assignment.parse (source₁ ++ "\n" ++ source₂) =
        .error (.chainedAssignment (byteLength source₁.toList + 1 + byteLength (front ++ gap)))) :=
  ⟨parse_behind_terminated ha hb, parse_behind_open ha hb⟩

end Joined

/-- A division that has no right side and a comment at the end of the first source, a key with an
equals sign in the target of the second one. -/
theorem parse_joined_dangling :
    Assignment.parse "x = /=/g / // y" = .ok ⟨"x", "/=/g / // y", ⟨0, 1⟩, ⟨4, 15⟩⟩ ∧
      Assignment.parse "a['='] = 1;" = .ok ⟨"a['=']", "1", ⟨0, 6⟩, ⟨9, 10⟩⟩ ∧
      ¬ IsTerminated "x = /=/g / // y" ⟨"x", "/=/g / // y", ⟨0, 1⟩, ⟨4, 15⟩⟩ ∧
      (IsTerminated "x = /=/g / // y" ⟨"x", "/=/g / // y", ⟨0, 1⟩, ⟨4, 15⟩⟩ →
        Assignment.parse ("x = /=/g / // y" ++ "\n" ++ "a['='] = 1;") =
          .error (.trailingCode (byteLength "x = /=/g / // y".toList + 1 + 0))) ∧
      (¬ IsTerminated "x = /=/g / // y" ⟨"x", "/=/g / // y", ⟨0, 1⟩, ⟨4, 15⟩⟩ →
        ∃ front gap rest, "a['='] = 1;".toList = front ++ gap ++ '=' :: rest ∧
          byteLength front = 6 ∧ Blanks gap ∧
          Assignment.parse ("x = /=/g / // y" ++ "\n" ++ "a['='] = 1;") =
            .error (.chainedAssignment
              (byteLength "x = /=/g / // y".toList + 1 + byteLength (front ++ gap)))) := by
  have ha : Assignment.parse "x = /=/g / // y" = .ok ⟨"x", "/=/g / // y", ⟨0, 1⟩, ⟨4, 15⟩⟩ := by
    decide +kernel
  have hb : Assignment.parse "a['='] = 1;" = .ok ⟨"a['=']", "1", ⟨0, 6⟩, ⟨9, 10⟩⟩ := by
    decide +kernel
  have hopen : ¬ IsTerminated "x = /=/g / // y" ⟨"x", "/=/g / // y", ⟨0, 1⟩, ⟨4, 15⟩⟩ := by
    rintro ⟨rest, front, w, hsource, -⟩
    have hsemicolon : ';' ∈ "x = /=/g / // y".toList := by
      rw [hsource]
      simp
    exact absurd hsemicolon (by decide +kernel)
  exact ⟨ha, hb, hopen, parse_joined ha hb⟩

end PublicPath.Proofs
