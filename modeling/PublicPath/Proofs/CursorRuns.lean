import PublicPath.Proofs.ByteCursor

/-!
# Runs of the cursor

The scanners and the loops of the cursor come to what the scanners of lists come to, at the bytes
where these leave off, and so does the whole run. A source gives its loops as many turns as it has
bytes, which is enough: the first character of the target, the operator and the semicolon pay for
the turns that end the loops behind them.
-/

namespace PublicPath.Proofs
open Text Statement

namespace Cursor
open Statement.Cursor

section Scanners

variable {source : String} {pos : Nat} {cs rest : List Char}

/-! ### Comments -/

lemma map_findBlockEnd (cs : List Char) : (findBlockEnd cs).map (· + 2) =
    (closeBlock cs).map fun (taken, _) => byteLength taken := by
  fun_induction closeBlock cs with
  | case1 => rfl
  | case2 => rfl
  | case3 c rest hne ih =>
    rw [findBlockEnd]
    · cases hclose : closeBlock rest <;> cases hfind : findBlockEnd rest <;>
        simp_all [Nat.add_assoc]
    · exact hne

lemma skipComment_line (h : StandsAt source.toList pos ('/' :: '/' :: rest)) :
    skipComment source pos =
      .ok (some (pos + byteLength ('/' :: '/' :: rest.takeWhile (· ≠ '\n')))) := by
  rw [skipComment, peek_eq h, ok_bind, peekNext_eq h]
  simp [skipWhile_eq h]

lemma skipComment_block (h : StandsAt source.toList pos ('/' :: '*' :: rest)) :
    skipComment source pos = match closeBlock rest with
      | some (taken, _) => .ok (some (pos + byteLength ('/' :: '*' :: taken)))
      | none => .error (.refused (.unterminatedLiteral '*' pos)) := by
  have hinside : StandsAt source.toList (pos + 2) rest := h.tail.tail
  have hbytes := map_findBlockEnd rest
  rw [skipComment, peek_eq h, ok_bind, peekNext_eq h]
  simp only [List.head?_cons, List.getElem?_cons_succ, List.getElem?_cons_zero, ok_bind,
    moveTo_eq hinside, ahead_eq hinside]
  cases hclose : closeBlock rest with
  | none =>
    rw [hclose, Option.map_none, Option.map_eq_none_iff] at hbytes
    rw [hbytes]
    rfl
  | some split =>
    obtain ⟨taken, left⟩ := split
    rw [hclose, Option.map_some, Option.map_eq_some_iff] at hbytes
    obtain ⟨bytes, hfind, hlength⟩ := hbytes
    dsimp only at hlength
    have hbehind : StandsAt source.toList (pos + 2 + bytes + 2) left := by
      rw [Nat.add_assoc, hlength]
      exact hinside.behind (closeBlock_append hclose)
    have hplace : pos + 2 + bytes + 2 = pos + byteLength ('/' :: '*' :: taken) := by
      have hsize : byteLength ('/' :: '*' :: taken) = 1 + (1 + byteLength taken) := rfl
      omega
    rw [hplace] at hbehind
    simp only [hfind, hplace, moveTo_eq hbehind, ok_bind, pure_eq_ok]

lemma eq_of_two {c d : Char} (hfirst : cs.head? = some c) (hsecond : cs[1]? = some d) :
    ∃ rest, cs = c :: d :: rest := by
  match cs, hfirst, hsecond with
  | _ :: _ :: rest, rfl, rfl => exact ⟨rest, rfl⟩

lemma skipComment_eq (h : StandsAt source.toList pos cs) :
    skipComment source pos = match Comment.read cs with
      | .closed text _ => .ok (some (pos + byteLength text))
      | .unclosed => .error (.refused (.unterminatedLiteral '*' pos))
      | .absent => .ok none := by
  fun_cases Comment.read cs with
  | case1 rest => exact skipComment_line h
  | case2 rest taken left hclose => rw [skipComment_block h, hclose]
  | case3 rest hclose => rw [skipComment_block h, hclose]
  | case4 cs hline hblock =>
    rw [skipComment, peek_eq h, ok_bind, peekNext_eq h, ok_bind]
    split
    · rename_i hfirst hsecond
      obtain ⟨rest, rfl⟩ := eq_of_two hfirst hsecond
      exact (hline rest rfl).elim
    · rename_i hfirst hsecond
      obtain ⟨rest, rfl⟩ := eq_of_two hfirst hsecond
      exact (hblock rest rfl).elim
    · rfl

/-! ### Targets -/

lemma identifier_eq (h : StandsAt source.toList pos cs) :
    identifier source pos = ((scanIdentifier pos cs).map (placeBehind pos)).mapError .refused := by
  rw [identifier, peek_eq h, ok_bind]
  cases cs with
  | nil => exact unexpected_eq h
  | cons c rest =>
    rw [scanIdentifier]
    by_cases hc : isIdentifierStart c = true
    · simp [hc, past_eq h, skipWhile_eq h.tail, placeBehind, Except.map, Except.mapError, Nat.add_assoc]
    · simp [hc, unexpected_eq h, unexpectedAt, Except.map, Except.mapError]

lemma computedKey_eq (h : StandsAt source.toList pos cs) :
    computedKey source pos = ((scanKey pos cs).map (placeBehind pos)).mapError .refused := by
  rw [computedKey, peek_eq h, ok_bind]
  cases cs with
  | nil => exact unexpected_eq h
  | cons c rest =>
    rw [scanKey]
    by_cases hq : c = '"' ∨ c = '\''
    · rw [if_pos hq]
      simp only [List.head?_cons, if_pos hq, quotedLiteral_eq h]
      cases closeQuoted c rest with
      | none => rfl
      | some split => simp [closing, placeBehind, Except.map, Except.mapError, Nat.add_assoc]
    by_cases hd : c.isDigit = true
    · simp only [List.head?_cons, if_neg hq, if_pos hd, skipWhile_eq h]
      rfl
    · simp only [List.head?_cons, if_neg hq, if_neg hd, unexpected_eq h]
      rfl

/-! ### Operators -/

lemma assignmentOperator_other {c : Char} (h : StandsAt source.toList pos (c :: rest))
    (hc : c ≠ '=') : assignmentOperator source pos =
      if Assignment.isOperatorChar c then
        let tail := (rest.dropWhile Assignment.isOperatorChar).takeWhile (· = '=')
        .error (.refused (.unsupportedOperator
          (String.ofList (c :: rest.takeWhile Assignment.isOperatorChar ++ tail.take 1)) pos))
      else .error (.refused (.invalidTarget c pos)) := by
  rw [assignmentOperator, peek_eq h]
  by_cases ho : Assignment.isOperatorChar c = true
  · have hsplit : c :: rest.takeWhile Assignment.isOperatorChar ++
        rest.dropWhile Assignment.isOperatorChar = c :: rest := by
      simp
    simp only [List.head?_cons, ok_bind, if_neg hc, if_pos ho, skipWhile_eq h,
      List.takeWhile_cons_of_pos ho]
    generalize rest.dropWhile Assignment.isOperatorChar = left at hsplit ⊢
    generalize c :: rest.takeWhile Assignment.isOperatorChar = marks at hsplit ⊢
    rw [← hsplit] at h
    by_cases heq : left.head? = some '='
    · obtain ⟨more, rfl⟩ := List.head?_eq_some_iff.mp heq
      have hoperator : StandsAt source.toList pos ((marks ++ ['=']) ++ more) := by
        simpa using h
      have hbetween := between_eq hoperator
      rw [byteLength_append, ← Nat.add_assoc] at hbetween
      have hsize : ('=' : Char).utf8Size = byteLength ['='] := rfl
      simp only [peek_eq h.skip, past_eq h.skip, List.head?_cons, ok_bind, if_true, hsize, hbetween]
      simp
    · have hnone : left.takeWhile (· = '=') = [] := by
        cases left with
        | nil => rfl
        | cons d more => simpa using heq
      simp [peek_eq h.skip, heq, between_eq h, hnone]
  · simp [hc, ho]

lemma assignmentOperator_eq (h : StandsAt source.toList pos cs) :
    assignmentOperator source pos =
      ((Assignment.scanOperator pos cs).map fun _ => pos + 1).mapError .refused := by
  fun_cases Assignment.scanOperator pos cs with
  | case1 =>
    rw [assignmentOperator, peek_eq h]
    rfl
  | case2 rest =>
    rw [assignmentOperator, peek_eq h, peekNext_eq h]
    rfl
  | case3 rest =>
    rw [assignmentOperator, peek_eq h, peekNext_eq h]
    rfl
  | case4 rest heq harrow =>
    rw [assignmentOperator, peek_eq h, peekNext_eq h]
    simp only [List.head?_cons, ok_bind, if_true, past_eq h]
    split
    · rename_i hnext
      obtain ⟨more, hmore⟩ := eq_of_two rfl hnext
      cases hmore
      exact (heq more rfl).elim
    · rename_i hnext
      obtain ⟨more, hmore⟩ := eq_of_two rfl hnext
      cases hmore
      exact (harrow more rfl).elim
    · rfl
  | case5 c rest heq harrow hne ho =>
    rw [assignmentOperator_other h hne, if_pos ho]
    rfl
  | case6 c rest heq harrow hne ho =>
    rw [assignmentOperator_other h hne, if_neg ho]
    rfl

/-! ### Accesses -/

lemma skipBlanks_eq (h : StandsAt source.toList pos cs) :
    skipWhile source isBlank pos = .ok (pos + byteLength (leadingBlanks cs)) :=
  skipWhile_eq h

lemma member_eq (h : StandsAt source.toList pos cs) :
    member source pos = ((scanMember pos cs).map (placeBehind pos)).mapError .refused := by
  rw [member, skipBlanks_eq h, ok_bind, identifier_eq h.skipBlanks, scanMember]
  cases scanIdentifier (pos + byteLength (leadingBlanks cs)) (skipBlanks cs) with
  | error e => rfl
  | ok split => simp [placeBehind, Except.map, Except.mapError, Nat.add_assoc]

lemma index_eq (h : StandsAt source.toList pos cs) :
    index source pos = ((scanIndex pos cs).map (placeBehind pos)).mapError .refused := by
  rw [index, skipBlanks_eq h, ok_bind, computedKey_eq h.skipBlanks]
  fun_cases scanIndex pos cs with
  | case1 e hkey =>
    rw [hkey]
    rfl
  | case2 key left hkey inside more hskip =>
    have hleft := h.skipBlanks.behind (scanKey_append hkey)
    have hplace := hleft.skipBlanks
    rw [hskip] at hplace
    simp only [hkey, Except.map, Except.mapError, placeBehind, ok_bind, skipBlanks_eq hleft,
      peek_eq hplace, List.head?_cons, if_true, past_eq hplace]
    simp [inside, Nat.add_assoc]
  | case3 key left hkey inside hskip =>
    have hleft := h.skipBlanks.behind (scanKey_append hkey)
    have hplace := hleft.skipBlanks
    have hhead : (skipBlanks left).head? ≠ some ']' := by
      intro hhead
      obtain ⟨more, hmore⟩ := List.head?_eq_some_iff.mp hhead
      exact hskip more hmore
    simp only [hkey, Except.map, Except.mapError, placeBehind, ok_bind, skipBlanks_eq hleft,
      peek_eq hplace, if_neg hhead, unexpected_eq hplace]
    simp [inside, Nat.add_assoc]

lemma accessTurn_eq (s : Unit) (h : StandsAt source.toList pos cs) :
    accessTurn source s pos = match scanAccess pos cs with
      | .error e => .error (.refused e)
      | .ok none => .ok (.ended pos)
      | .ok (some (taken, _)) => .ok (.again () (pos + byteLength taken)) := by
  have hplace := h.skipBlanks
  rw [accessTurn, skipBlanks_eq h, ok_bind, peek_eq hplace, ok_bind]
  fun_cases scanAccess pos cs with
  | case1 lead behind rest hskip =>
    rw [hskip] at hplace ⊢
    have hpast : past source (pos + byteLength lead) '.' = .ok behind := past_eq hplace
    have hbehind : StandsAt source.toList behind rest := hplace.tail
    simp only [List.head?_cons]
    rw [hpast, ok_bind, member_eq hbehind]
    cases hm : scanMember behind rest with
    | error e => rfl
    | ok split =>
      simp [placeBehind, Except.map, Except.mapError, behind, Nat.add_assoc]
      rfl
  | case2 lead behind rest hskip =>
    rw [hskip] at hplace ⊢
    have hpast : past source (pos + byteLength lead) '[' = .ok behind := past_eq hplace
    have hbehind : StandsAt source.toList behind rest := hplace.tail
    simp only [List.head?_cons]
    rw [hpast, ok_bind, index_eq hbehind]
    cases hm : scanIndex behind rest with
    | error e => rfl
    | ok split =>
      simp [placeBehind, Except.map, Except.mapError, behind, Nat.add_assoc]
      rfl
  | case3 hdot hbracket =>
    split
    · rename_i hhead
      obtain ⟨more, hmore⟩ := List.head?_eq_some_iff.mp hhead
      exact (hdot more hmore).elim
    · rename_i hhead
      obtain ⟨more, hmore⟩ := List.head?_eq_some_iff.mp hhead
      exact (hbracket more hmore).elim
    · rw [moveTo_eq h]
      rfl

lemma follows_access (s : Unit) (h : StandsAt source.toList pos cs) :
    Follows (fun _ pos cs => (scanAccesses pos cs).map (placeBehind pos)) (fun _ _ => .ok) s pos cs
      (accessTurn source s pos) := by
  rw [accessTurn_eq s h]
  cases ha : scanAccess pos cs with
  | error e => exact .refused (by rw [scanAccesses_error ha]; rfl)
  | ok access =>
    cases access with
    | none => exact .ended (by rw [scanAccesses_none ha]; rfl)
    | some split =>
      obtain ⟨taken, left⟩ := split
      obtain ⟨happend, hne⟩ := scanAccess_append ha
      refine .again taken happend.symm hne ?_
      rw [scanAccesses_some ha]
      cases scanAccesses (pos + byteLength taken) left with
      | error e => rfl
      | ok more => simp [Except.map, placeBehind, Nat.add_assoc]

/-! ### Lexemes -/

lemma regexLiteral_eq (h : StandsAt source.toList pos ('/' :: rest)) :
    regexLiteral source pos = match closeRegex false rest with
      | some (taken, left) =>
        .ok (pos + byteLength ('/' :: (taken ++ left.takeWhile isIdentifierPart)))
      | none => .error (.refused (.unterminatedLiteral '/' pos)) := by
  have hloop : within source (regexTurn source pos) false (pos + byteLength ['/']) =
      (closing '/' pos (pos + byteLength ['/']) (closeRegex false rest)).mapError .refused :=
    within_eq (fun _ _ _ => follows_literal takes_regex) h.tail
  rw [regexLiteral, bump_eq h, ok_bind]
  simp only [List.take_succ_cons, List.take_zero]
  rw [hloop]
  cases hclose : closeRegex false rest with
  | none => rfl
  | some split =>
    obtain ⟨taken, left⟩ := split
    have hleft := h.tail.behind (closeRegex_append hclose)
    simp only [closing, placeBehind, Except.mapError, ok_bind]
    refine (skipWhile_eq hleft).trans ?_
    simp [Nat.add_assoc]

lemma valueTurn_eq {s : Context} {c : Char} (h : StandsAt source.toList pos (c :: rest)) :
    valueTurn source s pos = match Lexeme.next s.significant c rest with
      | .error q => .error (.refused (.unterminatedLiteral q pos))
      | .ok (x, left) =>
        match s.step pos x left.head? with
        | .error e => .error (.refused e)
        | .ok none => .ok (.ended (pos, some (pos + byteLength x.text)))
        | .ok (some t) => .ok (.again t (pos + byteLength x.text)) := by
  rw [valueTurn, peek_eq h]
  simp only [List.head?_cons, ok_bind, skipComment_eq h]
  fun_cases Lexeme.next s.significant c rest with
  | case1 text left hread =>
    rw [hread]
    rfl
  | case2 hread =>
    rw [hread]
    rfl
  | case3 hread hblank =>
    simp only [hread, ok_bind, if_pos hblank, past_eq h]
    rfl
  | case4 hread hblank hregex taken left hclose =>
    obtain ⟨rfl, hlast⟩ := hregex
    simp only [hread, ok_bind, if_neg hblank, hlast, and_self, if_true, regexLiteral_eq h, hclose]
    rfl
  | case5 hread hblank hregex hclose =>
    obtain ⟨rfl, hlast⟩ := hregex
    simp only [hread, ok_bind, if_neg hblank, hlast, and_self, if_true, regexLiteral_eq h, hclose]
    rfl
  | case6 hread hblank hregex hquote taken left hclose =>
    simp only [hread, ok_bind, if_neg hblank, if_neg hregex, if_pos hquote, quotedLiteral_eq h,
      hclose, closing, Except.mapError, placeBehind, Nat.add_assoc]
    rfl
  | case7 hread hblank hregex hquote hclose =>
    simp only [hread, ok_bind, if_neg hblank, if_neg hregex, if_pos hquote, quotedLiteral_eq h,
      hclose]
    rfl
  | case8 hread hblank hregex hquote =>
    have hnext : (c :: rest)[1]? = rest.head? := by
      cases rest <;> rfl
    simp only [hread, ok_bind, if_neg hblank, if_neg hregex, if_neg hquote, peekNext_eq h, hnext,
      past_eq h]
    rfl

/-- What follows a value: behind a semicolon, the rest of the source is checked. -/
def valueEnd (_ : Nat) (cs : List Char) : Nat × Option Nat → Except StatementError Nat
  | (stop, none) => .ok stop
  | (stop, some behind) => (checkTrailing behind cs.tail).map fun _ => stop

lemma follows_value (s : Context) (h : StandsAt source.toList pos cs) :
    Follows (fun s pos cs => (scanValue s pos cs).map (pos + byteLength ·)) valueEnd s pos cs
      (valueTurn source s pos) := by
  cases cs with
  | nil =>
    rw [valueTurn, peek_eq h]
    simp only [List.head?_nil, ok_bind]
    cases hs : s.opened with
    | nil => exact .ended (by rw [scanValue_nil hs]; rfl)
    | cons bracket outer => exact .refused (by rw [scanValue, hs]; rfl)
  | cons c rest =>
    rw [valueTurn_eq h]
    cases hnext : Lexeme.next s.significant c rest with
    | error q => exact .refused (by rw [scanValue_unclosed hnext]; rfl)
    | ok lexeme =>
      obtain ⟨x, left⟩ := lexeme
      have hx := isLexeme_of_next hnext
      have happend := next_append hnext
      dsimp only
      cases hstep : s.step pos x left.head? with
      | error e => exact .refused (by rw [← happend, scanValue_error hx hstep]; rfl)
      | ok after =>
        cases after with
        | none =>
          obtain ⟨rfl, hs⟩ := step_eq_none_iff.mp hstep
          rw [Lexeme.text, List.singleton_append, List.cons.injEq] at happend
          obtain ⟨rfl, rfl⟩ := happend
          refine .ended ?_
          rw [scanValue_semicolon hs]
          change _ = (checkTrailing (pos + 1) left).map fun _ => pos
          cases checkTrailing (pos + 1) left <;> rfl
        | some t =>
          refine .again x.text happend.symm hx.text_ne_nil ?_
          rw [← happend, scanValue_cons hx (contextStep_of_step hstep)]
          cases scanValue t (pos + byteLength x.text) left with
          | error e => rfl
          | ok text => simp [Except.map, Nat.add_assoc]

/-! ### Trailing comments -/

lemma checkTrailing_blanks (pos : Nat) (cs : List Char) :
    checkTrailing pos cs = checkTrailing (pos + byteLength (leadingBlanks cs)) (skipBlanks cs) := by
  rw [← checkTrailing_trivia (isTriviaBefore_of_blanks (blanks_leadingBlanks cs) _),
    leadingBlanks_append_skipBlanks]

lemma follows_trailing (s : Unit) (h : StandsAt source.toList pos cs) :
    Follows (fun _ => checkTrailing) (fun _ _ => .ok) s pos cs (trailingTurn source s pos) := by
  have hplace := h.skipBlanks
  have hlength := hplace.add_byteLength
  have hcs := leadingBlanks_append_skipBlanks cs
  rw [trailingTurn, skipBlanks_eq h, ok_bind]
  cases hskip : skipBlanks cs with
  | nil =>
    rw [hskip, byteLength_nil, Nat.add_zero] at hlength
    rw [if_pos hlength.ge]
    exact .ended (by rw [checkTrailing_blanks, hskip, checkTrailing])
  | cons c rest =>
    have hc := c.utf8Size_pos
    rw [hskip] at hplace hcs
    rw [hskip, byteLength_cons] at hlength
    rw [if_neg (by omega)]
    simp only [skipComment_eq hplace]
    cases hread : Comment.read (c :: rest) with
    | closed text left =>
      have happend := Comment.read_append hread
      have hnext : pos + byteLength (leadingBlanks cs) + byteLength text =
          pos + byteLength (leadingBlanks cs ++ text) := by
        rw [byteLength_append, Nat.add_assoc]
      simp only [ok_bind, hnext]
      have htaken : cs = leadingBlanks cs ++ text ++ left := by
        rw [List.append_assoc, happend, hcs]
      refine .again _ htaken (List.append_ne_nil_of_right_ne_nil _ (Comment.text_ne_nil hread)) ?_
      rw [checkTrailing_blanks, hskip, ← happend, checkTrailing_comment (isComment_of_read hread),
        hnext]
    | unclosed =>
      refine .refused ?_
      rw [checkTrailing_blanks, hskip]
      exact checkTrailing_eq_error_iff.mpr (.unclosed .nil hread)
    | absent =>
      have hblank : isBlank c = false := stops_cons.mp (hskip ▸ stops_skipBlanks cs)
      have hcode := checkTrailing_code (blanks_leadingBlanks cs) hblank
        (read_eq_absent_iff.mp hread) pos
      rw [hcs] at hcode
      exact .refused hcode

end Scanners

/-! ### Whole loops -/

section Loops

variable {source : String} {pos turns : Nat} {cs : List Char}

lemma eq_of_accessTurn {s : Unit} {stop : Nat} (h : StandsAt source.toList pos cs)
    (hended : accessTurn source s pos = .ok (.ended stop)) : stop = pos := by
  rw [accessTurn_eq s h] at hended
  split at hended <;> cases hended
  rfl

lemma repeatTurns_access (h : StandsAt source.toList pos cs) (hturns : byteLength cs < turns) :
    (∃ e, scanAccesses pos cs = .error e ∧
      repeatTurns (accessTurn source) turns () pos = .error (.refused e)) ∨
    ∃ taken left more, scanAccesses pos cs = .ok (taken, left) ∧
      repeatTurns (accessTurn source) turns () pos = .ok (pos + byteLength taken, more) ∧
      byteLength left ≤ more := by
  obtain ⟨e, he, hrun⟩ | ⟨t, last, rest, result, more, hlast, hended, he, hrun, hmore⟩ :=
    repeatTurns_follows (fun s _ _ => follows_access s) () h hturns
  · exact .inl ⟨e, map_eq_error.mp he, hrun⟩
  · cases hscan : scanAccesses pos cs with
    | error e =>
      rw [hscan] at he
      cases he
    | ok split =>
      obtain ⟨taken, left⟩ := split
      rw [hscan] at he
      cases he
      obtain ⟨-, -, -, happend⟩ := isAccess_of_scanAccesses hscan
      have hbehind := (h.behind happend).add_byteLength
      have hrest := hlast.add_byteLength
      rw [← eq_of_accessTurn hlast hended] at hrest
      refine .inr ⟨taken, left, more, rfl, hrun, ?_⟩
      simp only [placeBehind] at hrest
      omega

/-- The accesses of a target are read in fewer turns than the target has bytes. -/
lemma memberChain_eq (h : StandsAt source.toList pos cs) (hturns : byteLength cs ≤ turns) :
    (∃ e, scanTarget pos cs = .error e ∧ memberChain source turns pos = .error (.refused e)) ∨
      ∃ target left more, scanTarget pos cs = .ok (target, left) ∧
        memberChain source turns pos = .ok (pos + byteLength target, more) ∧
        byteLength left ≤ more := by
  rw [memberChain, identifier_eq h, scanTarget]
  cases hname : scanIdentifier pos cs with
  | error e => exact .inl ⟨e, rfl, rfl⟩
  | ok split =>
    obtain ⟨name, left⟩ := split
    have happend := scanIdentifier_append hname
    have hplace := h.behind happend
    have hless : byteLength left < turns := by
      have hne := byteLength_pos (isIdentifier_of_scanIdentifier hname).isTarget.ne_nil
      rw [← happend, byteLength_append] at hturns
      omega
    obtain ⟨e, he, hrun⟩ | ⟨taken, rest, more, he, hrun, hmore⟩ := repeatTurns_access hplace hless
    · exact .inl ⟨e, by simp only [he, Except.map], hrun⟩
    · refine .inr ⟨name ++ taken, rest, more, by simp only [he, Except.map], ?_, hmore⟩
      rw [byteLength_append, ← Nat.add_assoc]
      exact hrun

lemma valueTurn_ended {s : Context} {stop behind : Nat} (h : StandsAt source.toList pos cs)
    (hended : valueTurn source s pos = .ok (.ended (stop, some behind))) :
    ∃ rest, cs = ';' :: rest ∧ behind = pos + 1 := by
  cases cs with
  | nil =>
    rw [valueTurn, peek_eq h] at hended
    simp only [List.head?_nil, ok_bind] at hended
    split at hended <;> cases hended
  | cons c rest =>
    rw [valueTurn_eq h] at hended
    split at hended
    · cases hended
    · rename_i x left hnext
      split at hended
      · cases hended
      · rename_i hstep
        obtain ⟨rfl, -⟩ := step_eq_none_iff.mp hstep
        cases next_append hnext
        cases hended
        exact ⟨_, rfl, rfl⟩
      · cases hended

lemma expression_eq (h : StandsAt source.toList pos cs) (hturns : byteLength cs < turns) :
    expression source turns pos =
      ((scanValue .start pos cs).map (pos + byteLength ·)).mapError .refused := by
  obtain ⟨e, he, hrun⟩ | ⟨t, last, rest, ⟨stop, terminated⟩, more, hlast, hended, he, hrun, hmore⟩ :=
    repeatTurns_follows (fun s _ _ => follows_value s) .start h hturns
  · rw [expression, hrun, he]
    rfl
  · rw [expression, hrun, he]
    cases terminated with
    | none => rfl
    | some behind =>
      obtain ⟨rest, rfl, rfl⟩ := valueTurn_ended hlast hended
      have hless : byteLength rest < more := by
        rw [byteLength_cons] at hmore
        have := (';' : Char).utf8Size_pos
        omega
      have hplace : StandsAt source.toList (last + 1) rest := hlast.tail
      simp only [ok_bind, valueEnd, List.tail_cons]
      obtain ⟨e, htrailing, hrun⟩ | ⟨_, _, _, _, left, -, -, htrailing, hrun, -⟩ :=
        repeatTurns_follows (fun s _ _ => follows_trailing s) () hplace hless
      · rw [hrun, htrailing]
        rfl
      · rw [hrun, htrailing]
        rfl

end Loops

/-! ### Whole runs -/

/-- From every place of the source, a turn is refused, or it ends its loop, or it goes on at a place
of the source that is further behind. -/
def MovesOn {σ ρ : Type} (source : String) (turn : σ → Nat → Except Halt (Turn σ ρ)) : Prop :=
  ∀ s pos, String.Pos.Raw.IsValid source ⟨pos⟩ →
    match turn s pos with
    | .error halt => ∃ e, halt = .refused e
    | .ok (.ended _) => True
    | .ok (.again _ next) =>
      pos < next ∧ next ≤ source.utf8ByteSize ∧ String.Pos.Raw.IsValid source ⟨next⟩

lemma movesOn_of_follows {source : String} {σ ρ τ : Type}
    {outcome : σ → Nat → List Char → Except StatementError τ}
    {behind : Nat → List Char → ρ → Except StatementError τ}
    {turn : σ → Nat → Except Halt (Turn σ ρ)}
    (hturn : ∀ s pos cs, StandsAt source.toList pos cs →
      Follows outcome behind s pos cs (turn s pos)) : MovesOn source turn := by
  intro s pos hpos
  obtain ⟨cs, h⟩ := exists_standsAt hpos
  have hfollows := hturn s pos cs h
  generalize turn s pos = result at hfollows
  cases hfollows with
  | @refused e => exact ⟨e, rfl⟩
  | ended => trivial
  | again taken hcs hne =>
    have htaken := byteLength_pos hne
    have hnext := h.behind hcs.symm
    have hlength := hnext.add_byteLength
    exact ⟨by omega, by omega, hnext.isValid⟩

lemma size_sub_skipBlanks (cs : List Char) :
    byteLength cs - byteLength (skipBlanks cs) = byteLength (leadingBlanks cs) := by
  have hsplit := congrArg byteLength (leadingBlanks_append_skipBlanks cs)
  rw [byteLength_append] at hsplit
  omega

/-- The operator takes a byte, so that fewer turns are needed behind it. -/
lemma byteLength_behind_operator {left rest : List Char} (h : skipBlanks left = '=' :: rest) :
    byteLength rest < byteLength left := by
  have hsplit := congrArg byteLength (leadingBlanks_append_skipBlanks left)
  have hmark : byteLength ('=' :: rest) = 1 + byteLength rest := rfl
  rw [byteLength_append, h, hmark] at hsplit
  omega

/-- Given as many turns as the source has bytes, the cursor reads what the parser reads. -/
lemma parse_eq (source : String) :
    parse source source.utf8ByteSize = (Assignment.parse source).mapError .refused := by
  have hsource : StandsAt source.toList 0 source.toList := ⟨[], rfl, rfl⟩
  have hstart := hsource.skipBlanks
  have hlength := hstart.add_byteLength
  rw [parse, skipBlanks_eq hsource, ok_bind]
  rw [Nat.zero_add] at hstart hlength ⊢
  unfold Assignment.parse
  dsimp only
  generalize byteLength (leadingBlanks source.toList) = start at hstart hlength ⊢
  by_cases hempty : skipBlanks source.toList = []
  · rw [hempty, byteLength_nil, Nat.add_zero] at hlength
    rw [if_pos hlength.ge, if_pos hempty]
    rfl
  have hpos := byteLength_pos hempty
  rw [if_neg (by omega), if_neg hempty]
  obtain ⟨e, htarget, hrun⟩ | ⟨target, left, more, htarget, hrun, hmore⟩ :=
    memberChain_eq hstart (Nat.le_of_add_left_le hlength.le)
  · rw [hrun, htarget]
    rfl
  have happend := (isTarget_of_scanTarget htarget).2
  have hleft := hstart.behind happend
  have hplace := hleft.skipBlanks
  simp only [hrun, htarget, ok_bind, skipBlanks_eq hleft, assignmentOperator_eq hplace]
  rw [← happend] at hstart
  generalize start + byteLength target + byteLength (leadingBlanks left) = place at hplace ⊢
  cases hoperator : Assignment.scanOperator place (skipBlanks left) with
  | error e => rfl
  | ok rest =>
    obtain ⟨hequals, -⟩ := eq_of_scanOperator hoperator
    rw [hequals] at hplace
    have hbehind : StandsAt source.toList (place + 1) rest := hplace.tail
    have hless := (byteLength_behind_operator hequals).trans_le hmore
    simp only [Except.map, Except.mapError, ok_bind, expression_eq hbehind hless]
    cases hvalue : scanValue .start (place + 1) rest with
    | error e => rfl
    | ok scanned =>
      obtain ⟨xs, t, ending, rfl, rfl, -, -, -⟩ := reads_of_scanValue hvalue
      simp only [ok_bind, between_eq hbehind, between_eq hstart,
        size_sub_skipBlanks]
      by_cases hvalue : dropEndWhile isBlank (skipBlanks (textOf xs)) = []
      · rw [if_pos hvalue, if_pos hvalue]
        rfl
      · rw [if_neg hvalue, if_neg hvalue]
        rfl

end Cursor

/-- The cursor never leaves the text. Every turn of a loop that goes on moves from a place of the
source to one further behind, whatever it is over: the accesses of a target, the lexemes of a value,
trailing comments, runs of a class, quoted literals or regular expressions. A run checks each of its
places and turns. With as many turns as the source has bytes, for the accesses, the lexemes and the
trailing comments together, it ends as the parser does, so that no check fails on any source. -/
theorem cursor_stays_and_ends (source : String) :
    Cursor.MovesOn source (Cursor.accessTurn source) ∧
    Cursor.MovesOn source (Cursor.valueTurn source) ∧
    Cursor.MovesOn source (Cursor.trailingTurn source) ∧
    (∀ p, Cursor.MovesOn source (Cursor.whileTurn source p)) ∧
    (∀ q start, Cursor.MovesOn source (Cursor.quotedTurn source q start)) ∧
    (∀ start, Cursor.MovesOn source (Cursor.regexTurn source start)) ∧
    Cursor.parse source source.utf8ByteSize = (Assignment.parse source).mapError .refused :=
  ⟨Cursor.movesOn_of_follows fun s _ _ => Cursor.follows_access s,
    Cursor.movesOn_of_follows fun s _ _ => Cursor.follows_value s,
    Cursor.movesOn_of_follows fun s _ _ => Cursor.follows_trailing s,
    fun _ => Cursor.movesOn_of_follows fun s _ _ => Cursor.follows_while s,
    fun q _ => Cursor.movesOn_of_follows fun _ _ _ => Cursor.follows_literal (Cursor.takes_quoted q),
    fun _ => Cursor.movesOn_of_follows fun _ _ _ => Cursor.follows_literal Cursor.takes_regex,
    Cursor.parse_eq source⟩

end PublicPath.Proofs
