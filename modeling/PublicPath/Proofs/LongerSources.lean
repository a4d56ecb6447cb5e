import PublicPath.Proofs.EndedStatements
import PublicPath.Proofs.ErrorPlaces

/-!
# Longer sources

Each scanner decides by the characters that it has passed and at most one more. So a source that is
refused at one of its characters, with the character behind it where an equals sign or a slash leaves
the question open, is refused there however it goes on.
-/

namespace PublicPath.Proofs
open Text Statement

/-- The errors that no text behind the source takes back. -/
inductive IsDefinite (cs : List Char) : StatementError → Prop
  | invalidTarget (c : Char) (offset : Nat) : IsDefinite cs (.invalidTarget c offset)
  | closer {c : Char} (hc : openerOf c ≠ none) (offset : Nat) :
      IsDefinite cs (.unbalancedDelimiter c offset)
  | chainedAssignment {offset : Nat} {c d : Char} {rest : List Char}
      (h : StandsAt cs offset (c :: d :: rest)) : IsDefinite cs (.chainedAssignment offset)
  | trailingCode {offset : Nat} {c d : Char} {rest : List Char}
      (h : StandsAt cs offset (c :: d :: rest)) : IsDefinite cs (.trailingCode offset)

/-- An outcome that no text behind changes: a character is refused, or something other than white
space is left. -/
inductive IsSettled {α : Type} (left : α → List Char) : Except StatementError α → Prop
  -- Behind white space alone, a dot or a bracket would still go on with the target.
  | taken {answer : α} (h : ¬ Blanks (left answer)) : IsSettled left (.ok answer)
  | refused (c : Char) (offset : Nat) : IsSettled left (.error (.invalidTarget c offset))

/-- The same outcome with more text left. -/
def lengthen (more : List Char) (outcome : Except StatementError (List Char × List Char)) :
    Except StatementError (List Char × List Char) :=
  outcome.map fun (text, left) => (text, left ++ more)

lemma isSettled_of_map {α β : Type} {left : α → List Char} {left' : β → List Char} {f : α → β}
    {outcome : Except StatementError α} (h : IsSettled left' (outcome.map f))
    (hf : ∀ answer, left' (f answer) = left answer) : IsSettled left outcome := by
  cases outcome with
  | error e =>
    cases h
    exact .refused _ _
  | ok answer =>
    cases h with
    | taken hleft =>
      rw [hf] at hleft
      exact .taken hleft

/-! ### Targets -/

section Target

variable {offset : Nat} {cs : List Char}

lemma ne_nil_of_not_blanks (h : ¬ Blanks cs) : cs ≠ [] := by
  rintro rfl
  exact h blanks_nil

lemma run_longer {p : Char → Bool} (h : cs.dropWhile p ≠ []) (more : List Char) :
    (cs ++ more).takeWhile p = cs.takeWhile p ∧
      (cs ++ more).dropWhile p = cs.dropWhile p ++ more := by
  have hstops : Stops p (cs.dropWhile p ++ more) := (stops_append h).mpr (stops_dropWhile p cs)
  have hcs : cs ++ more = cs.takeWhile p ++ (cs.dropWhile p ++ more) := by
    rw [← List.append_assoc, List.takeWhile_append_dropWhile]
  rw [hcs]
  exact ⟨takeWhile_run mem_takeWhile hstops, dropWhile_run mem_takeWhile hstops⟩

lemma blanks_longer (h : ¬ Blanks cs) (more : List Char) :
    leadingBlanks (cs ++ more) = leadingBlanks cs ∧ skipBlanks (cs ++ more) = skipBlanks cs ++ more :=
  run_longer (mt skipBlanks_eq_nil_iff.mp h) more

lemma closeQuoted_longer {q : Char} {taken left : List Char} (hq : q ≠ '\\')
    (h : closeQuoted q cs = some (taken, left)) (more : List Char) :
    closeQuoted q (cs ++ more) = some (taken, left ++ more) := by
  obtain ⟨body, hbody, rfl⟩ := closeQuoted_sound h
  rw [← closeQuoted_append h, List.append_assoc, List.append_assoc, List.singleton_append]
  exact closeQuoted_body hq hbody (left ++ more)

lemma scanIdentifier_longer (h : IsSettled Prod.snd (scanIdentifier offset cs)) (more : List Char) :
    scanIdentifier offset (cs ++ more) = lengthen more (scanIdentifier offset cs) := by
  cases cs with
  | nil => cases h
  | cons c rest =>
    rw [scanIdentifier] at h
    rw [List.cons_append, scanIdentifier, scanIdentifier]
    split at h
    · rename_i hc
      cases h with
      | taken hleft =>
        obtain ⟨htake, hdrop⟩ := run_longer (ne_nil_of_not_blanks hleft) more
        rw [if_pos hc, if_pos hc, htake, hdrop]
        rfl
    · rename_i hc
      rw [if_neg hc, if_neg hc]
      rfl

lemma scanKey_longer (h : IsSettled Prod.snd (scanKey offset cs)) (more : List Char) :
    scanKey offset (cs ++ more) = lengthen more (scanKey offset cs) := by
  cases cs with
  | nil => cases h
  | cons c rest =>
    rw [scanKey] at h
    rw [List.cons_append, scanKey, scanKey]
    split at h
    · rename_i hq
      have hs : c ≠ '\\' := by
        rcases hq with rfl | rfl <;> decide
      rw [if_pos hq, if_pos hq]
      cases hclose : closeQuoted c rest with
      | none =>
        rw [hclose] at h
        cases h
      | some answer =>
        rw [closeQuoted_longer hs hclose]
        rfl
    · rename_i hq
      rw [if_neg hq, if_neg hq]
      split at h
      · rename_i hd
        cases h with
        | taken hleft =>
          obtain ⟨htake, hdrop⟩ := run_longer (ne_nil_of_not_blanks hleft) more
          rw [if_pos hd, if_pos hd, ← List.cons_append, htake, hdrop]
          rfl
      · rename_i hd
        rw [if_neg hd, if_neg hd]
        rfl

lemma scanMember_longer (h : IsSettled Prod.snd (scanMember offset cs)) (more : List Char) :
    scanMember offset (cs ++ more) = lengthen more (scanMember offset cs) := by
  have hcs : ¬ Blanks cs := by
    intro hblank
    rw [scanMember, skipBlanks_eq_nil_iff.mpr hblank] at h
    cases h
  obtain ⟨hlead, hskip⟩ := blanks_longer hcs more
  have hname : IsSettled Prod.snd
      (scanIdentifier (offset + byteLength (leadingBlanks cs)) (skipBlanks cs)) := by
    rw [scanMember] at h
    split at h
    · rename_i hi
      rwa [hi]
    · rename_i hi
      rw [hi]
      cases h with
      | taken hleft => exact .taken hleft
  rw [scanMember, scanMember, hlead, hskip, scanIdentifier_longer hname]
  cases scanIdentifier (offset + byteLength (leadingBlanks cs)) (skipBlanks cs) <;> rfl

lemma scanIndex_longer (h : IsSettled Prod.snd (scanIndex offset cs)) (more : List Char) :
    scanIndex offset (cs ++ more) = lengthen more (scanIndex offset cs) := by
  have hcs : ¬ Blanks cs := by
    intro hblank
    rw [scanIndex, skipBlanks_eq_nil_iff.mpr hblank] at h
    cases h
  obtain ⟨hlead, hskip⟩ := blanks_longer hcs more
  rw [scanIndex] at h
  rw [scanIndex, scanIndex, hlead, hskip]
  cases hk : scanKey (offset + byteLength (leadingBlanks cs)) (skipBlanks cs) with
  | error e =>
    rw [hk] at h
    rw [scanKey_longer (by rwa [hk]), hk]
    rfl
  | ok answer =>
    obtain ⟨key, left⟩ := answer
    rw [hk] at h
    dsimp only at h
    have hleft : ¬ Blanks left := by
      intro hblank
      rw [skipBlanks_eq_nil_iff.mpr hblank] at h
      cases h
    obtain ⟨hlead', hskip'⟩ := blanks_longer hleft more
    rw [scanKey_longer (by rw [hk]; exact .taken hleft), hk]
    simp only [lengthen, Except.map, hlead', hskip']
    cases hback : skipBlanks left with
    | nil => exact absurd (skipBlanks_eq_nil_iff.mp hback) hleft
    | cons c back =>
      rw [List.cons_append]
      by_cases hc : c = ']'
      · subst hc
        rfl
      · simp [hc, unexpectedAt]

lemma scanAccess_longer
    (h : IsSettled (fun access => (access.map Prod.snd).getD cs) (scanAccess offset cs))
    (more : List Char) : scanAccess offset (cs ++ more) =
      (scanAccess offset cs).map (Option.map fun (text, left) => (text, left ++ more)) := by
  have hcs : ¬ Blanks cs := by
    intro hblank
    rw [scanAccess, skipBlanks_eq_nil_iff.mpr hblank] at h
    cases h with
    | taken hleft => exact hleft hblank
  obtain ⟨hlead, hskip⟩ := blanks_longer hcs more
  obtain ⟨c, rest, hfront⟩ := List.exists_cons_of_ne_nil (mt skipBlanks_eq_nil_iff.mp hcs)
  rw [scanAccess, hfront] at h
  rw [scanAccess, scanAccess, hlead, hskip, hfront, List.cons_append]
  by_cases hdot : c = '.'
  · subst hdot
    have hmember : IsSettled Prod.snd (scanMember (offset + byteLength (leadingBlanks cs) + 1) rest) :=
      isSettled_of_map h fun _ => rfl
    change (scanMember _ (rest ++ more)).map _ = ((scanMember _ rest).map _).map _
    rw [scanMember_longer hmember]
    cases scanMember (offset + byteLength (leadingBlanks cs) + 1) rest <;> rfl
  by_cases hopen : c = '['
  · subst hopen
    have hindex : IsSettled Prod.snd (scanIndex (offset + byteLength (leadingBlanks cs) + 1) rest) :=
      isSettled_of_map h fun _ => rfl
    change (scanIndex _ (rest ++ more)).map _ = ((scanIndex _ rest).map _).map _
    rw [scanIndex_longer hindex]
    cases scanIndex (offset + byteLength (leadingBlanks cs) + 1) rest <;> rfl
  · simp [hdot, hopen, Except.map]

lemma not_blanks_of_scanAccesses (h : IsSettled Prod.snd (scanAccesses offset cs)) : ¬ Blanks cs := by
  intro hblank
  have hnone : scanAccess offset cs = .ok none := by
    rw [scanAccess, skipBlanks_eq_nil_iff.mpr hblank]
  rw [scanAccesses_none hnone] at h
  cases h with
  | taken hleft => exact hleft hblank

lemma isSettled_scanAccess (h : IsSettled Prod.snd (scanAccesses offset cs)) :
    IsSettled (fun access => (access.map Prod.snd).getD cs) (scanAccess offset cs) := by
  cases ha : scanAccess offset cs with
  | error e =>
    rw [scanAccesses_error ha] at h
    cases h
    exact .refused _ _
  | ok access =>
    cases access with
    | none =>
      rw [scanAccesses_none ha] at h
      cases h with
      | taken hleft => exact .taken hleft
    | some answer =>
      obtain ⟨taken, left⟩ := answer
      rw [scanAccesses_some ha] at h
      exact .taken (not_blanks_of_scanAccesses (isSettled_of_map h fun _ => rfl))

lemma scanAccesses_longer (h : IsSettled Prod.snd (scanAccesses offset cs)) (more : List Char) :
    scanAccesses offset (cs ++ more) = lengthen more (scanAccesses offset cs) := by
  have hlonger := scanAccess_longer (isSettled_scanAccess h) more
  fun_induction scanAccesses offset cs with
  | case1 offset cs e ha =>
    rw [ha] at hlonger
    exact scanAccesses_error hlonger
  | case2 offset cs ha =>
    rw [ha] at hlonger
    exact scanAccesses_none hlonger
  | case3 offset cs taken left ha hlt ih =>
    have hrest : IsSettled Prod.snd (scanAccesses (offset + byteLength taken) left) :=
      isSettled_of_map h fun _ => rfl
    rw [ha] at hlonger
    rw [scanAccesses_some hlonger, ih hrest (scanAccess_longer (isSettled_scanAccess hrest) more)]
    cases scanAccesses (offset + byteLength taken) left <;> rfl

lemma scanTarget_longer (h : IsSettled Prod.snd (scanTarget offset cs)) (more : List Char) :
    scanTarget offset (cs ++ more) = lengthen more (scanTarget offset cs) := by
  rw [scanTarget] at h
  rw [scanTarget, scanTarget]
  cases hname : scanIdentifier offset cs with
  | error e =>
    rw [hname] at h
    rw [scanIdentifier_longer (by rwa [hname]), hname]
    rfl
  | ok answer =>
    obtain ⟨name, left⟩ := answer
    rw [hname] at h
    have hrest : IsSettled Prod.snd (scanAccesses (offset + byteLength name) left) :=
      isSettled_of_map h fun _ => rfl
    have hsettled : IsSettled Prod.snd (scanIdentifier offset cs) := by
      rw [hname]
      exact .taken (not_blanks_of_scanAccesses hrest)
    rw [scanIdentifier_longer hsettled, hname]
    change (scanAccesses _ (left ++ more)).map _ = lengthen more ((scanAccesses _ left).map _)
    rw [scanAccesses_longer hrest]
    cases scanAccesses (offset + byteLength name) left <;> rfl

lemma scanOperator_longer {c : Char} {place : Nat}
    (h : Assignment.scanOperator offset cs = .error (.invalidTarget c place)) (more : List Char) :
    Assignment.scanOperator offset (cs ++ more) = .error (.invalidTarget c place) := by
  unfold Assignment.scanOperator at h
  split at h
  · cases h
  · cases h
  · cases h
  · cases h
  · rename_i d rest _ _ hequals
    dsimp only at h
    split at h
    · cases h
    · rename_i hd
      cases h
      rw [List.cons_append, Assignment.scanOperator]
      · rw [if_neg hd]
      · exact fun _ hc _ => hequals hc
      · exact fun _ hc _ => hequals hc
      · exact hequals

end Target

/-! ### Values -/

section Value

variable {front rest after : List Char} {s : Context} {e : StatementError}

lemma TrailingStuck.longer (h : TrailingStuck (byteLength front) rest e)
    (hdef : IsDefinite (front ++ rest) e) (more : List Char) :
    TrailingStuck (byteLength front) (rest ++ more) e := by
  cases h with
  | unclosed => cases hdef
  | @code between left c hbetween hc hs =>
    cases hdef with
    | @trailingCode _ d d' back hplace =>
      have hplace' := (standsAt_append front (between ++ c :: left)).skip.unique hplace
      cases hplace'
      rw [List.append_assoc]
      apply TrailingStuck.code _ hc
      · -- A slash opens a comment by the character behind it, and that one is known.
        intro hstart
        exact hs ((startsComment_congr _ _).mp hstart)
      · exact hbetween.follow (followsAs_cons c _ _)

/-- What a scan cannot pass it cannot pass in a longer text. -/
lemma ValueStuck.longer (h : ValueStuck s (byteLength front) after e)
    (hs : KeepsPlaces (front ++ after) s) (hdef : IsDefinite (front ++ after) e) (more : List Char) :
    after ≠ [] ∧ ValueStuck s (byteLength front) (after ++ more) e := by
  cases h with
  | unclosed => cases hdef
  | @opened c place outer hopened =>
    -- More text may close the bracket. The error names an opening one, so that it is not definite.
    obtain ⟨hopener, -⟩ := hs c place (by rw [hopened]; exact List.mem_cons_self)
    cases hdef with
    | closer hc =>
      obtain ⟨opener, hclose⟩ := Option.ne_none_iff_exists'.mp hc
      rw [isOpener_of_openerOf hclose] at hopener
      cases hopener
  | closer hc hunlike => exact ⟨by simp, .closer hc hunlike⟩
  | @assignment rest hopened hcompares =>
    cases hdef with
    | chainedAssignment hplace =>
      cases (standsAt_append front ('=' :: rest)).unique hplace
      exact ⟨by simp, .assignment hopened hcompares⟩
  | @trailing rest e hopened htrailing =>
    refine ⟨by simp, .trailing hopened ?_⟩
    have hsemicolon : byteLength front + 1 = byteLength (front ++ [';']) :=
      (byteLength_mark rfl front []).symm
    rw [hsemicolon] at htrailing ⊢
    apply htrailing.longer
    rwa [List.append_assoc]

end Value

/-! ### Sources -/

/-- A source that is refused for good is refused at the same place with more text behind it. -/
lemma Refused.longer {cs : List Char} {e : StatementError} (h : Refused cs e)
    (hdef : IsDefinite cs e) (more : List Char) : Refused (cs ++ more) e := by
  cases h with
  | empty | noValue => cases hdef
  | @target lead rest e hlead hrest hne ht =>
    rw [List.append_assoc]
    apply Refused.target hlead ((stops_append hne).mpr hrest) (by simp [hne])
    cases targetStuck_of_scanTarget hrest ht with
    | key => cases hdef
    | @unexpected front back hback =>
      cases back with
      | nil => cases hdef
      | cons c back =>
        rw [scanTarget_longer (by rw [ht]; exact .refused _ _), ht]
        rfl
  | @operator lead target gap rest e hlead ht hgap hrest hop =>
    have hinvalid : e = unexpectedAt (byteLength (lead ++ target ++ gap)) rest := by
      rcases operator_cases hop with he | ⟨op, left, -, -, -, rfl⟩
      · exact he
      · cases hdef
    subst hinvalid
    cases rest with
    | nil => cases hdef
    | cons c rest =>
      have hleft : ¬ Blanks (gap ++ c :: rest) := by
        rw [← skipBlanks_eq_nil_iff, skipBlanks_run hgap hrest]
        simp
      have hlonger : scanTarget (byteLength lead) (target ++ (gap ++ (c :: rest ++ more))) =
          .ok (target, gap ++ (c :: rest ++ more)) := by
        have htarget := scanTarget_longer (by rw [ht]; exact .taken hleft) more
        rw [ht] at htarget
        simpa [lengthen, Except.map] using htarget
      rw [List.append_assoc, List.append_assoc, List.append_assoc]
      apply Refused.operator hlead hlonger hgap
      · exact stops_cons.mpr (stops_cons.mp hrest)
      · exact scanOperator_longer hop more
  | @value lead target gap after xs t e hlead ht hgap hop hreads hstuck =>
    obtain ⟨hafter, hlonger⟩ := hstuck.longer (keepsPlaces_of_reads hreads)
      (by rwa [List.append_assoc, List.cons_append]) more
    have hreads' := hreads.follow (followsAs_append hafter more)
    have hop' : Stops (fun c => c == '=' || c == '>') (textOf xs ++ (after ++ more)) := by
      rwa [← List.append_assoc, stops_append (by simp [hafter])]
    have hvalue := Refused.value hlead ht hgap hop' hreads' hlonger
    simpa only [List.append_assoc, List.cons_append] using hvalue

/-- A definite error stays the answer, at its place, whatever is written behind the source. -/
theorem parse_append_of_isDefinite {source : String} {e : StatementError}
    (h : Assignment.parse source = .error e) (hdef : IsDefinite source.toList e) (more : String) :
    Assignment.parse (source ++ more) = .error e := by
  rw [parse_eq_error_iff] at h ⊢
  rw [String.toList_append]
  exact h.longer hdef more.toList

/-- A slash behind a comment, and text that would make a comment of it alone. -/
theorem parse_append_slash :
    Assignment.parse "x = 1; // y\n/z" = .error (.trailingCode 12) ∧
      IsDefinite "x = 1; // y\n/z".toList (.trailingCode 12) ∧
      Assignment.parse ("x = 1; // y\n/z" ++ "/ */") = .error (.trailingCode 12) := by
  have hparse : Assignment.parse "x = 1; // y\n/z" = .error (.trailingCode 12) := by
    decide +kernel
  have hplace : StandsAt "x = 1; // y\n/z".toList 12 ['/', 'z'] :=
    ⟨"x = 1; // y\n".toList, by decide +kernel, by decide +kernel⟩
  exact ⟨hparse, .trailingCode hplace, parse_append_of_isDefinite hparse (.trailingCode hplace) "/ */"⟩

end PublicPath.Proofs
