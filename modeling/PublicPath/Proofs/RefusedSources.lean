import PublicPath.Proofs.MissingValues

/-!
# Refused sources

A source that is no assignment is refused at a place: where its target breaks off, at its operator,
or behind some lexemes of its value. `Refused` tells these places apart by what stands there, and a
source is refused with an error exactly where one of them gives this error.
-/

namespace PublicPath.Proofs
open Text Statement

/-- A target breaks off at a character that it cannot hold, at the end of the source, or at a key
that never ends. -/
inductive TargetStuck (offset : Nat) : List Char → StatementError → Prop
  | unexpected (front : List Char) {rest : List Char} (hrest : Stops isBlank rest) :
      TargetStuck offset (front ++ rest) (unexpectedAt (offset + byteLength front) rest)
  | key (front : List Char) {q : Char} {rest : List Char} (hq : q = '"' ∨ q = '\'')
      (h : closeQuoted q rest = none) :
      TargetStuck offset (front ++ q :: rest) (.unterminatedLiteral q (offset + byteLength front))

/-- Behind the white space and the comments at the end of a statement stands other code, or a comment
that never ends. -/
inductive TrailingStuck (offset : Nat) : List Char → StatementError → Prop
  | code {front rest : List Char} {c : Char} (hfront : IsTriviaBefore (c :: rest) front)
      (hc : isBlank c = false) (hs : ¬ StartsComment (c :: rest)) :
      TrailingStuck offset (front ++ c :: rest) (.trailingCode (offset + byteLength front))
  | unclosed {front rest : List Char} (hfront : IsTriviaBefore rest front)
      (h : Comment.read rest = .unclosed) :
      TrailingStuck offset (front ++ rest) (.unterminatedLiteral '*' (offset + byteLength front))

/-- What a scan cannot pass in the context that it is in. -/
inductive ValueStuck (s : Context) (offset : Nat) : List Char → StatementError → Prop
  | opened {c : Char} {place : Nat} {outer : List (Char × Nat)} (hs : s.opened = (c, place) :: outer) :
      ValueStuck s offset [] (.unbalancedDelimiter c place)
  | unclosed {c q : Char} {rest : List Char} (h : Lexeme.next s.significant c rest = .error q) :
      ValueStuck s offset (c :: rest) (.unterminatedLiteral q offset)
  | closer {c opener : Char} {rest : List Char} (hc : openerOf c = some opener)
      (hs : ∀ place outer, s.opened ≠ (opener, place) :: outer) :
      ValueStuck s offset (c :: rest) (.unbalancedDelimiter c offset)
  | assignment {rest : List Char} (hs : s.opened = [])
      (h : isComparison s.previous rest.head? = false) :
      ValueStuck s offset ('=' :: rest) (.chainedAssignment offset)
  | trailing {rest : List Char} {e : StatementError} (hs : s.opened = [])
      (h : TrailingStuck (offset + 1) rest e) : ValueStuck s offset (';' :: rest) e

/-- The place at which a source is refused. -/
inductive Refused : List Char → StatementError → Prop
  | empty {cs : List Char} (h : Blanks cs) : Refused cs .empty
  | target {lead rest : List Char} {e : StatementError} (hlead : Blanks lead)
      (hrest : Stops isBlank rest) (hne : rest ≠ []) (h : scanTarget (byteLength lead) rest = .error e) :
      Refused (lead ++ rest) e
  | operator {lead target gap rest : List Char} {e : StatementError} (hlead : Blanks lead)
      (ht : scanTarget (byteLength lead) (target ++ (gap ++ rest)) = .ok (target, gap ++ rest))
      (hgap : Blanks gap) (hrest : Stops isBlank rest)
      (h : Assignment.scanOperator (byteLength (lead ++ target ++ gap)) rest = .error e) :
      Refused (lead ++ (target ++ (gap ++ rest))) e
  | value {lead target gap after : List Char} {xs : List Lexeme} {t : Context} {e : StatementError}
      (hlead : Blanks lead) (ht : IsTarget target) (hgap : Blanks gap)
      (hop : Stops (fun c => c == '=' || c == '>') (textOf xs ++ after))
      (hreads : Reads after (byteLength (lead ++ target ++ gap) + 1) .start xs t)
      (h : ValueStuck t (byteLength (lead ++ target ++ gap ++ '=' :: textOf xs)) after e) :
      Refused (lead ++ target ++ gap ++ '=' :: (textOf xs ++ after)) e
  | noValue {lead target gap w ending : List Char} (hlead : Blanks lead) (ht : IsTarget target)
      (hgap : Blanks gap) (hw : Blanks w) (hending : IsEnding ending) :
      Refused (lead ++ target ++ gap ++ '=' :: (w ++ ending))
        (.emptyValue (byteLength (lead ++ target ++ gap) + 1))

/-! ### Targets -/

section Target

variable {offset : Nat} {cs : List Char} {e : StatementError}

lemma TargetStuck.prepend {front : List Char}
    (h : TargetStuck (offset + byteLength front) cs e) : TargetStuck offset (front ++ cs) e := by
  cases h with
  | unexpected more hrest =>
    rw [Nat.add_assoc, ← byteLength_append, ← List.append_assoc]
    exact .unexpected (front ++ more) hrest
  | key more hq hnone =>
    rw [Nat.add_assoc, ← byteLength_append, ← List.append_assoc]
    exact .key (front ++ more) hq hnone

lemma targetStuck_unexpectedAt (h : Stops isBlank cs) :
    TargetStuck offset cs (unexpectedAt offset cs) :=
  .unexpected [] h

lemma targetStuck_of_scanIdentifier (hcs : Stops isBlank cs)
    (h : scanIdentifier offset cs = .error e) : TargetStuck offset cs e := by
  have he : e = unexpectedAt offset cs := by
    unfold scanIdentifier at h
    split at h
    · cases h
      rfl
    · split at h <;> cases h
      rfl
  rw [he]
  exact targetStuck_unexpectedAt hcs

lemma targetStuck_of_scanKey (hcs : Stops isBlank cs) (h : scanKey offset cs = .error e) :
    TargetStuck offset cs e := by
  unfold scanKey at h
  split at h
  · cases h
    exact targetStuck_unexpectedAt hcs
  · split at h
    · rename_i hq
      split at h <;> cases h
      rename_i hnone
      exact .key [] hq hnone
    · split at h <;> cases h
      exact targetStuck_unexpectedAt hcs

lemma targetStuck_of_scanMember (h : scanMember offset cs = .error e) : TargetStuck offset cs e := by
  unfold scanMember at h
  split at h <;> cases h
  rename_i hi
  rw [← leadingBlanks_append_skipBlanks cs]
  exact (targetStuck_of_scanIdentifier (stops_skipBlanks cs) hi).prepend

lemma targetStuck_of_scanIndex (h : scanIndex offset cs = .error e) : TargetStuck offset cs e := by
  unfold scanIndex at h
  split at h
  · rename_i hk
    cases h
    rw [← leadingBlanks_append_skipBlanks cs]
    exact (targetStuck_of_scanKey (stops_skipBlanks cs) hk).prepend
  · rename_i key left hk
    dsimp only at h
    split at h <;> cases h
    have hcs : leadingBlanks cs ++ key ++ leadingBlanks left ++ skipBlanks left = cs := by
      rw [List.append_assoc _ _ (skipBlanks left), leadingBlanks_append_skipBlanks, List.append_assoc,
        scanKey_append hk, leadingBlanks_append_skipBlanks]
    have hstuck : TargetStuck offset
        (leadingBlanks cs ++ key ++ leadingBlanks left ++ skipBlanks left) _ :=
      .unexpected _ (stops_skipBlanks left)
    rwa [hcs] at hstuck

lemma targetStuck_of_scanAccess (h : scanAccess offset cs = .error e) : TargetStuck offset cs e := by
  have hcs := leadingBlanks_append_skipBlanks cs
  have hbehind : ∀ {c : Char} {rest : List Char}, c.utf8Size = 1 → skipBlanks cs = c :: rest →
      TargetStuck (offset + byteLength (leadingBlanks cs) + 1) rest e → TargetStuck offset cs e := by
    intro c rest hsize hskip hstuck
    have hfront : leadingBlanks cs ++ [c] ++ rest = cs := by
      rw [List.append_assoc, List.singleton_append, ← hskip, hcs]
    rw [← hfront]
    apply TargetStuck.prepend
    simpa [hsize, Nat.add_assoc] using hstuck
  unfold scanAccess at h
  dsimp only at h
  split at h
  · rename_i rest hskip
    cases hm : scanMember (offset + byteLength (leadingBlanks cs) + 1) rest with
    | ok => simp [hm, Except.map] at h
    | error e' =>
      rw [hm] at h
      cases h
      exact hbehind rfl hskip (targetStuck_of_scanMember hm)
  · rename_i rest hskip
    cases hm : scanIndex (offset + byteLength (leadingBlanks cs) + 1) rest with
    | ok => simp [hm, Except.map] at h
    | error e' =>
      rw [hm] at h
      cases h
      exact hbehind rfl hskip (targetStuck_of_scanIndex hm)
  · cases h

lemma map_eq_error {ε α β : Type} {x : Except ε α} {f : α → β} {e : ε} :
    x.map f = .error e ↔ x = .error e := by
  cases x <;> simp [Except.map]

lemma targetStuck_of_scanAccesses (h : scanAccesses offset cs = .error e) :
    TargetStuck offset cs e := by
  fun_induction scanAccesses offset cs with
  | case1 offset cs e' ha =>
    cases h
    exact targetStuck_of_scanAccess ha
  | case2 => cases h
  | case3 offset cs taken left ha hlt ih =>
    rw [← (scanAccess_append ha).1]
    exact (ih (map_eq_error.mp h)).prepend

/-- A target that is refused breaks off at some place. -/
theorem targetStuck_of_scanTarget (hcs : Stops isBlank cs) (h : scanTarget offset cs = .error e) :
    TargetStuck offset cs e := by
  unfold scanTarget at h
  split at h
  · rename_i hi
    cases h
    exact targetStuck_of_scanIdentifier hcs hi
  · rename_i name left hi
    rw [← scanIdentifier_append hi]
    exact (targetStuck_of_scanAccesses (map_eq_error.mp h)).prepend

end Target

/-! ### Values -/

/-- Behind white space and comments, what stands there is all that is left to check. -/
lemma checkTrailing_trivia {after cs : List Char} (h : IsTriviaBefore after cs) (offset : Nat) :
    checkTrailing offset (cs ++ after) = checkTrailing (offset + byteLength cs) after := by
  induction h generalizing offset with
  | nil => rfl
  | blank hc _ ih =>
    rw [List.cons_append, checkTrailing, if_pos hc, ih, byteLength_cons, Nat.add_assoc]
  | comment hc _ ih =>
    rw [List.append_assoc, checkTrailing_comment hc, ih, byteLength_append, Nat.add_assoc]

lemma TrailingStuck.prepend {offset : Nat} {front cs : List Char} {e : StatementError}
    (h : TrailingStuck (offset + byteLength front) cs e)
    (hfront : ∀ after back, cs = back ++ after → IsTriviaBefore after back →
      IsTriviaBefore after (front ++ back)) : TrailingStuck offset (front ++ cs) e := by
  cases h with
  | code hback hc hs =>
    rw [Nat.add_assoc, ← byteLength_append, ← List.append_assoc]
    exact .code (hfront _ _ rfl hback) hc hs
  | unclosed hback hread =>
    rw [Nat.add_assoc, ← byteLength_append, ← List.append_assoc]
    exact .unclosed (hfront _ _ rfl hback) hread

lemma unclosed_front {cs : List Char} (h : Comment.read cs = .unclosed) :
    ∃ rest, cs = '/' :: '*' :: rest := by
  unfold Comment.read at h
  split at h
  · cases h
  · exact ⟨_, rfl⟩
  · cases h

lemma checkTrailing_eq_error_iff {offset : Nat} {cs : List Char} {e : StatementError} :
    checkTrailing offset cs = .error e ↔ TrailingStuck offset cs e := by
  constructor
  · intro h
    fun_induction checkTrailing offset cs with
    | case1 => cases h
    | case2 offset c rest hb ih =>
      have hrest : TrailingStuck (offset + byteLength [c]) rest e := by
        simpa using ih h
      exact hrest.prepend fun _ _ _ hback => .blank hb hback
    | case3 offset c rest hb text left hr hlt ih =>
      rw [← Comment.read_append hr]
      apply (ih h).prepend
      rintro after back rfl hback
      exact .comment (isComment_of_read hr) hback
    | case4 offset c rest hb hr =>
      cases h
      exact .unclosed .nil hr
    | case5 offset c rest hb hr =>
      cases h
      exact .code .nil (by simpa using hb) (read_eq_absent_iff.mp hr)
  · intro h
    cases h with
    | code hfront hc hs =>
      rw [checkTrailing_trivia hfront]
      exact checkTrailing_code blanks_nil hc hs _
    | @unclosed front rest hfront hread =>
      rw [checkTrailing_trivia hfront]
      obtain ⟨left, rfl⟩ := unclosed_front hread
      rw [checkTrailing, if_neg (by decide)]
      split <;> simp_all

section Value

variable {s : Context} {offset : Nat} {cs : List Char} {e : StatementError}

lemma valueStuck_of_step {c : Char} {rest left : List Char} {x : Lexeme}
    (hx : Lexeme.next s.significant c rest = .ok (x, left))
    (h : s.step offset x left.head? = .error e) : ValueStuck s offset (c :: rest) e := by
  cases x with
  | comment | blank | regex | quoted => cases h
  | mark d =>
    have happend := next_append hx
    rw [Lexeme.text, List.singleton_append, List.cons.injEq] at happend
    obtain ⟨rfl, rfl⟩ := happend
    simp only [Context.step] at h
    split at h
    · cases h
    split at h
    · rename_i opener hc
      have hstuck : (∀ place outer, s.opened ≠ (opener, place) :: outer) →
          ValueStuck s offset (d :: left) (.unbalancedDelimiter d offset) := .closer hc
      split at h
      · rename_i hs
        split at h <;> cases h
        rename_i hd
        apply hstuck
        rintro place outer ho
        rw [hs] at ho
        cases ho
        exact hd rfl
      · rename_i hs
        cases h
        apply hstuck
        simp [hs]
    · split_ifs at h with hend hassign
      · cases h
        obtain ⟨rfl, hs, hcompares⟩ := hassign
        exact .assignment hs (by simpa using hcompares)

/-- A scan that fails goes over some lexemes and is stuck behind them. -/
theorem valueStuck_of_scanValue (h : scanValue s offset cs = .error e) :
    ∃ xs t after, cs = textOf xs ++ after ∧ Reads after offset s xs t ∧
      ValueStuck t (offset + byteLength (textOf xs)) after e := by
  have hnone : ∀ {s offset cs}, ValueStuck s offset cs e →
      ∃ xs t after, cs = textOf xs ++ after ∧ Reads after offset s xs t ∧
        ValueStuck t (offset + byteLength (textOf xs)) after e :=
    fun hstuck => ⟨[], _, _, rfl, .nil _ _, hstuck⟩
  fun_induction scanValue s offset cs with
  | case1 => cases h
  | case2 s offset c place outer hs =>
    cases h
    exact hnone (.opened hs)
  | case3 s offset c rest q hx =>
    cases h
    exact hnone (.unclosed hx)
  | case4 s offset c rest x left hx hlt behind =>
    rename_i hstep
    cases h
    exact hnone (valueStuck_of_step hx hstep)
  | case5 s offset c rest x left hx hlt behind =>
    rename_i hstep
    obtain ⟨rfl, hs⟩ := step_eq_none_iff.mp hstep
    have happend := next_append hx
    rw [Lexeme.text, List.singleton_append, List.cons.injEq] at happend
    obtain ⟨rfl, rfl⟩ := happend
    exact hnone (.trailing hs (checkTrailing_eq_error_iff.mp (map_eq_error.mp h)))
  | case6 s offset c rest x left hx hlt behind t =>
    rename_i hstep ih
    obtain ⟨xs, u, after, rfl, hreads, hstuck⟩ := ih (map_eq_error.mp h)
    refine ⟨x :: xs, u, after, ?_, .cons (isLexeme_of_next hx) (contextStep_of_step hstep) hreads, ?_⟩
    · rw [← next_append hx, textOf_cons, List.append_assoc]
    · rwa [textOf_cons, byteLength_append, ← Nat.add_assoc]

lemma scanValue_of_valueStuck (h : ValueStuck s offset cs e) : scanValue s offset cs = .error e := by
  cases h with
  | opened hs => rw [scanValue, hs]
  | unclosed hx => exact scanValue_unclosed hx offset
  | @closer c opener rest hc hs =>
    have hx : IsLexeme s.significant rest (.mark c) := by
      unfold openerOf at hc
      split_ifs at hc <;> subst c <;>
        exact .mark rfl rfl (not_startsComment_of_ne (by decide) _) (fun h => absurd h (by decide))
    apply scanValue_error hx
    cases ho : s.opened with
    | nil => simp [Context.step, isOpener_of_openerOf hc, hc, ho]
    | cons bracket outer =>
      obtain ⟨d, place⟩ := bracket
      have hd : d ≠ opener := by
        rintro rfl
        exact hs place outer ho
      simp [Context.step, isOpener_of_openerOf hc, hc, ho, hd]
  | assignment hs hcompares => exact scanValue_assignment hs hcompares offset
  | trailing hs htrailing =>
    rw [scanValue_semicolon hs, checkTrailing_eq_error_iff.mpr htrailing]
    rfl

end Value

/-! ### Sources -/

lemma bind_eq_error {ε α β : Type} {x : Except ε α} {f : α → Except ε β} {e : ε} :
    x >>= f = .error e ↔ x = .error e ∨ ∃ a, x = .ok a ∧ f a = .error e := by
  cases x <;> simp [bind, Except.bind]

lemma skipBlanks_eq_nil_iff {cs : List Char} : skipBlanks cs = [] ↔ Blanks cs :=
  List.dropWhile_eq_nil_iff

lemma isTriviaBefore_of_blanks {w : List Char} (h : Blanks w) (after : List Char) :
    IsTriviaBefore after w := by
  induction w with
  | nil => exact .nil
  | cons c w ih =>
    exact .blank (h c List.mem_cons_self) (ih fun d hd => h d (List.mem_cons_of_mem c hd))

lemma refused_of_parse {source : String} {e : StatementError}
    (h : Assignment.parse source = .error e) : Refused source.toList e := by
  unfold Assignment.parse at h
  dsimp only at h
  have hsource := leadingBlanks_append_skipBlanks source.toList
  have hlead := blanks_leadingBlanks source.toList
  split at h
  · rename_i hskip
    cases h
    exact .empty (skipBlanks_eq_nil_iff.mp hskip)
  rename_i hne
  rcases bind_eq_error.mp h with ht | ⟨⟨target, left⟩, ht, h⟩
  · rw [← hsource]
    exact .target hlead (stops_skipBlanks _) hne ht
  obtain ⟨htarget, happend⟩ := isTarget_of_scanTarget ht
  have hleft := leadingBlanks_append_skipBlanks left
  have hgap := blanks_leadingBlanks left
  have hoffset : byteLength (leadingBlanks source.toList) + byteLength target +
      byteLength (leadingBlanks left) =
        byteLength (leadingBlanks source.toList ++ target ++ leadingBlanks left) := by
    rw [byteLength_append, byteLength_append]
  rw [← hsource, ← happend]
  rw [hoffset] at h
  rcases bind_eq_error.mp h with hop | ⟨rest, hop, h⟩
  · rw [← happend, ← hleft] at ht
    rw [← hleft]
    exact .operator hlead ht hgap (stops_skipBlanks left) hop
  obtain ⟨hequals, hstop⟩ := eq_of_scanOperator hop
  rw [← hleft, hequals, ← List.append_assoc, ← List.append_assoc]
  rcases bind_eq_error.mp h with hv | ⟨scanned, hv, h⟩
  · obtain ⟨xs, t, after, rfl, hreads, hstuck⟩ := valueStuck_of_scanValue hv
    apply Refused.value hlead htarget hgap hstop hreads
    rwa [byteLength_operator]
  · obtain ⟨xs, t, ending, rfl, rfl, -, -, hending⟩ := reads_of_scanValue hv
    split at h
    · rename_i hvalue
      cases h
      exact .noValue hlead htarget hgap (trim_eq_nil_iff.mp hvalue) hending
    · cases h

lemma parse_of_refused {cs : List Char} {e : StatementError} (h : Refused cs e) :
    Assignment.parse (String.ofList cs) = .error e := by
  cases h with
  | empty hblank =>
    unfold Assignment.parse
    simp only [String.toList_ofList]
    rw [if_pos (skipBlanks_eq_nil_iff.mpr hblank)]
    rfl
  | target hlead hrest hne ht =>
    unfold Assignment.parse
    simp only [String.toList_ofList, leadingBlanks_run hlead hrest, skipBlanks_run hlead hrest, ht,
      bind, Except.bind]
    rw [if_neg hne]
  | @operator lead target gap rest e hlead ht hgap hrest hop =>
    have htarget := (isTarget_of_scanTarget ht).1
    have hfront := htarget.stops_isBlank (gap ++ rest)
    have hoffset : byteLength lead + byteLength target + byteLength gap =
        byteLength (lead ++ target ++ gap) := by
      rw [byteLength_append, byteLength_append]
    unfold Assignment.parse
    simp only [String.toList_ofList, leadingBlanks_run hlead hfront, skipBlanks_run hlead hfront, ht,
      leadingBlanks_run hgap hrest, skipBlanks_run hgap hrest, hoffset, hop, bind, Except.bind]
    rw [if_neg (by simp [htarget.ne_nil])]
  | value hlead ht hgap hop hreads hstuck =>
    exact parse_of_scanError hlead ht hgap hop hreads (scanValue_of_valueStuck hstuck)
  | @noValue lead target gap w ending hlead ht hgap hw hending =>
    let s : Valueless :=
      ⟨lead, target, gap, w, ending, hlead, ht, hgap, isTriviaBefore_of_blanks hw ending, hending⟩
    exact s.parse_of_blanks hw

/-- A source is refused at one of its places, with the error that the place gives. -/
theorem parse_eq_error_iff {source : String} {e : StatementError} :
    Assignment.parse source = .error e ↔ Refused source.toList e := by
  constructor
  · exact refused_of_parse
  · intro h
    rw [← source.ofList_toList]
    exact parse_of_refused h

end PublicPath.Proofs
