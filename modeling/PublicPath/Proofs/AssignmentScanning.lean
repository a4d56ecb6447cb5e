import PublicPath.Proofs.TargetGrammar
import PublicPath.Proofs.ValueScanning
import PublicPath.Statement.Assignment

/-!
# Scanning assignments

An assignment falls into parts: blanks, a target, the operator, an expression with the value
between blanks, and the ending. `Parts.assignment` is what a reader of the whole source is told, and
the source is read as an assignment exactly where its expression is a run of lexemes that leaves no
bracket open.
-/

namespace PublicPath.Proofs
open Text Statement

/-- The parts of an assignment statement, in order; the operator stands behind `gap`. -/
structure Parts where
  lead : List Char
  target : List Char
  gap : List Char
  before : List Char
  value : List Char
  behind : List Char
  ending : List Char

namespace Parts

def expression (p : Parts) : List Char := p.before ++ p.value ++ p.behind

def source (p : Parts) : List Char :=
  p.lead ++ p.target ++ p.gap ++ '=' :: (p.expression ++ p.ending)

/-- The byte behind the operator. -/
def valueOffset (p : Parts) : Nat := byteLength (p.lead ++ p.target ++ p.gap) + 1

/-- Target and value as written, with their byte ranges in the source. -/
def assignment (p : Parts) : Assignment :=
  { target := String.ofList p.target
    value := String.ofList p.value
    targetSpan := ⟨byteLength p.lead, byteLength (p.lead ++ p.target)⟩
    valueSpan := ⟨p.valueOffset + byteLength p.before,
      p.valueOffset + byteLength (p.before ++ p.value)⟩ }

/-- The forms of all parts, the inside of the expression left aside. -/
structure Layout (p : Parts) : Prop where
  lead : Blanks p.lead
  target : IsTarget p.target
  gap : Blanks p.gap
  operator : Stops (fun c => c == '=' || c == '>') (p.expression ++ p.ending)
  before : Blanks p.before
  value_ne_nil : p.value ≠ []
  value_front : Stops isBlank p.value
  value_back : Stops isBlank p.value.reverse
  behind : Blanks p.behind
  ending : IsEnding p.ending

end Parts

lemma bind_eq_ok {ε α β : Type} {x : Except ε α} {f : α → Except ε β} {r : β} :
    x >>= f = .ok r ↔ ∃ a, x = .ok a ∧ f a = .ok r := by
  cases x <;> simp [bind, Except.bind]

lemma scanOperator_of {rest : List Char} (h : Stops (fun c => c == '=' || c == '>') rest)
    (offset : Nat) : Assignment.scanOperator offset ('=' :: rest) = .ok rest := by
  cases rest with
  | nil => rfl
  | cons c rest =>
    rw [stops_cons, Bool.or_eq_false_iff, beq_eq_false_iff_ne, beq_eq_false_iff_ne] at h
    rw [Assignment.scanOperator]
    · intro left hl
      exact h.1 (List.cons.inj hl).1
    · intro left hl
      exact h.2 (List.cons.inj hl).1

lemma eq_of_scanOperator {offset : Nat} {cs left : List Char}
    (h : Assignment.scanOperator offset cs = .ok left) :
    cs = '=' :: left ∧ Stops (fun c => c == '=' || c == '>') left := by
  unfold Assignment.scanOperator at h
  split at h
  · cases h
  · cases h
  · cases h
  · rename_i rest heq hgt
    cases h
    refine ⟨rfl, ?_⟩
    intro c hc
    cases left with
    | nil => cases hc
    | cons d left =>
      cases hc
      rw [Bool.or_eq_false_iff, beq_eq_false_iff_ne, beq_eq_false_iff_ne]
      constructor
      · rintro rfl
        exact heq left rfl
      · rintro rfl
        exact hgt left rfl
  · dsimp only at h
    split at h <;> cases h

lemma dropEndWhile_run {p : Char → Bool} {cs run : List Char} (hrun : ∀ c ∈ run, p c = true)
    (hcs : Stops p cs.reverse) : dropEndWhile p (cs ++ run) = cs := by
  have hr : ∀ c ∈ run.reverse, p c = true := fun c hc => hrun c (List.mem_reverse.mp hc)
  rw [dropEndWhile, List.reverse_append, dropWhile_run hr hcs, List.reverse_reverse]

lemma dropEndWhile_append (p : Char → Bool) (cs : List Char) :
    ∃ run, (∀ c ∈ run, p c = true) ∧ dropEndWhile p cs ++ run = cs := by
  refine ⟨(cs.reverse.takeWhile p).reverse, fun c hc => mem_takeWhile c (List.mem_reverse.mp hc), ?_⟩
  rw [dropEndWhile, ← List.reverse_append, List.takeWhile_append_dropWhile, List.reverse_reverse]

lemma stops_dropEndWhile (p : Char → Bool) (cs : List Char) : Stops p (dropEndWhile p cs).reverse := by
  rw [dropEndWhile, List.reverse_reverse]
  exact stops_dropWhile p _

lemma dropEndWhile_append_cons {p : Char → Bool} {c : Char} (hc : p c = false) (cs ds : List Char) :
    dropEndWhile p (cs ++ c :: ds) = cs ++ c :: dropEndWhile p ds := by
  obtain ⟨run, hrun, hds⟩ := dropEndWhile_append p ds
  have hstops : Stops p (cs ++ c :: dropEndWhile p ds).reverse := by
    rw [List.reverse_append, List.reverse_cons, List.append_assoc]
    cases hd : (dropEndWhile p ds).reverse with
    | nil => exact stops_cons.mpr hc
    | cons d back =>
      have hback := stops_dropEndWhile p ds
      rw [hd, stops_cons] at hback
      exact stops_cons.mpr hback
  have hwhole : cs ++ c :: ds = (cs ++ c :: dropEndWhile p ds) ++ run := by
    rw [List.append_assoc, List.cons_append, hds]
  rw [hwhole, dropEndWhile_run hrun hstops]

lemma IsTarget.stops_isBlank {target : List Char} (h : IsTarget target) (after : List Char) :
    Stops isBlank (target ++ after) := by
  cases h with
  | mk hname h =>
    rw [List.append_assoc]
    exact hname.stops_isBlank _

lemma IsTarget.ne_nil {target : List Char} (h : IsTarget target) : target ≠ [] := by
  cases h with
  | mk hname h =>
    cases hname with
    | mk hc hcs => simp

/-- The operator ends a target, with or without blanks in front. -/
lemma endsTarget_operator {gap : List Char} (h : Blanks gap) (rest : List Char) :
    EndsTarget (gap ++ '=' :: rest) := by
  constructor
  · cases gap with
    | nil => exact stops_cons.mpr (by decide)
    | cons c gap => exact stops_cons.mpr (not_isIdentifierPart_of_isBlank (h c List.mem_cons_self))
  · rw [skipBlanks_run h (stops_cons.mpr (by decide))]
    exact stops_cons.mpr (by decide)

/-- What a source is read as once the text behind its operator was scanned. -/
def ofScanned (lead target gap scanned : List Char) : Except StatementError Assignment :=
  let behind := byteLength (lead ++ target ++ gap) + 1
  let value := dropEndWhile isBlank (skipBlanks scanned)
  let first := behind + byteLength (leadingBlanks scanned)
  if value = [] then .error (.emptyValue behind)
  else .ok {
    target := String.ofList target
    value := String.ofList value
    targetSpan := ⟨byteLength lead, byteLength (lead ++ target)⟩
    valueSpan := ⟨first, first + byteLength value⟩ }

/-- Where a target and the operator stand in front, only the rest has to be scanned. -/
lemma parse_eq_bind {lead target gap rest : List Char} (hlead : Blanks lead) (ht : IsTarget target)
    (hgap : Blanks gap) (hrest : Stops (fun c => c == '=' || c == '>') rest) :
    Assignment.parse (String.ofList (lead ++ target ++ gap ++ '=' :: rest)) =
      (scanValue .start (byteLength (lead ++ target ++ gap) + 1) rest).bind
        (ofScanned lead target gap) := by
  have hfront := ht.stops_isBlank (gap ++ '=' :: rest)
  have hoperator : Stops isBlank ('=' :: rest) := stops_cons.mpr (by decide)
  have hoff : byteLength lead + byteLength target + byteLength gap + 1 =
      byteLength (lead ++ (target ++ gap)) + 1 := by
    simp [Nat.add_assoc]
  unfold Assignment.parse
  simp only [String.toList_ofList, List.append_assoc, leadingBlanks_run hlead hfront,
    skipBlanks_run hlead hfront, scanTarget_of ht (endsTarget_operator hgap _), bind, Except.bind,
    leadingBlanks_run hgap hoperator, skipBlanks_run hgap hoperator, scanOperator_of hrest, hoff]
  rw [if_neg (by simp [ht.ne_nil])]
  cases scanValue .start (byteLength (lead ++ (target ++ gap)) + 1) rest with
  | error e => rfl
  | ok scanned =>
    by_cases hv : dropEndWhile isBlank (skipBlanks scanned) = [] <;>
      simp [ofScanned, hv, throw, throwThe, MonadExceptOf.throw, pure, Except.pure]

/-- A source of the right parts is read as the assignment they make. -/
theorem parse_of_reads {p : Parts} (h : p.Layout) {xs : List Lexeme} {t : Context}
    (hxs : textOf xs = p.expression) (hreads : Reads p.ending p.valueOffset .start xs t)
    (ht : t.opened = []) : Assignment.parse (String.ofList p.source) = .ok p.assignment := by
  have hscan := scanValue_of_reads hreads ht h.ending
  rw [hxs] at hscan
  have hfront : Stops isBlank (p.value ++ p.behind) := (stops_append h.value_ne_nil).mpr h.value_front
  have hbefore : leadingBlanks p.expression = p.before := by
    rw [Parts.expression, List.append_assoc, leadingBlanks_run h.before hfront]
  have hvalue : dropEndWhile isBlank (skipBlanks p.expression) = p.value := by
    rw [Parts.expression, List.append_assoc, skipBlanks_run h.before hfront,
      dropEndWhile_run h.behind h.value_back]
  have hoffset : byteLength (p.lead ++ p.target ++ p.gap) + 1 = p.valueOffset := rfl
  rw [Parts.source, parse_eq_bind h.lead h.target h.gap h.operator, hoffset, hscan]
  change ofScanned p.lead p.target p.gap p.expression = _
  simp only [ofScanned, hvalue, hbefore, hoffset]
  rw [if_neg h.value_ne_nil]
  simp [Parts.assignment, Nat.add_assoc]

lemma byteLength_mark {c : Char} (hc : c.utf8Size = 1) (front back : List Char) :
    byteLength (front ++ c :: back) = byteLength front + 1 + byteLength back := by
  rw [byteLength_append, byteLength_cons, hc, Nat.add_assoc]

lemma byteLength_operator (front back : List Char) :
    byteLength (front ++ '=' :: back) = byteLength front + 1 + byteLength back :=
  byteLength_mark rfl front back

/-- An error behind a run of lexemes is the error of the whole source. -/
lemma parse_of_scanError {lead target gap rest : List Char} (hlead : Blanks lead)
    (ht : IsTarget target) (hgap : Blanks gap) {xs : List Lexeme} {t : Context}
    (hop : Stops (fun c => c == '=' || c == '>') (textOf xs ++ rest))
    (hreads : Reads rest (byteLength (lead ++ target ++ gap) + 1) .start xs t) {e : StatementError}
    (he : scanValue t (byteLength (lead ++ target ++ gap ++ '=' :: textOf xs)) rest = .error e) :
    Assignment.parse (String.ofList (lead ++ target ++ gap ++ '=' :: (textOf xs ++ rest))) =
      .error e := by
  rw [parse_eq_bind hlead ht hgap hop, scanValue_textOf hreads, ← byteLength_operator, he]
  rfl

/-- What is read as an assignment has the right parts. -/
theorem reads_of_parse {source : String} {a : Assignment} (h : Assignment.parse source = .ok a) :
    ∃ (p : Parts) (xs : List Lexeme) (t : Context), p.source = source.toList ∧ p.Layout ∧
      textOf xs = p.expression ∧ Reads p.ending p.valueOffset .start xs t ∧ t.opened = [] ∧
      a = p.assignment := by
  unfold Assignment.parse at h
  dsimp only at h
  split at h
  · cases h
  obtain ⟨⟨target, left⟩, htarget, h⟩ := bind_eq_ok.mp h
  obtain ⟨left', hoperator, h⟩ := bind_eq_ok.mp h
  obtain ⟨scanned, hvalue, h⟩ := bind_eq_ok.mp h
  split at h
  · cases h
  rename_i hne
  cases h
  obtain ⟨hform, happend⟩ := isTarget_of_scanTarget htarget
  obtain ⟨hleft, hstop⟩ := eq_of_scanOperator hoperator
  obtain ⟨xs, t, ending, rfl, rfl, hreads, ht, hending⟩ := reads_of_scanValue hvalue
  obtain ⟨behind, hbehind, hdrop⟩ := dropEndWhile_append isBlank (skipBlanks (textOf xs))
  let p : Parts :=
    { lead := leadingBlanks source.toList
      target := target
      gap := leadingBlanks left
      before := leadingBlanks (textOf xs)
      value := dropEndWhile isBlank (skipBlanks (textOf xs))
      behind := behind
      ending := ending }
  have hexpression : textOf xs = p.expression := by
    simp only [p, Parts.expression, List.append_assoc]
    rw [hdrop, leadingBlanks_append_skipBlanks]
  have hoffset : p.valueOffset = byteLength (leadingBlanks source.toList) + byteLength target +
      byteLength (leadingBlanks left) + 1 := by
    simp [p, Parts.valueOffset, Nat.add_assoc]
  refine ⟨p, xs, t, ?_, ?_, hexpression, ?_, ht, ?_⟩
  · rw [Parts.source, ← hexpression]
    simp only [p, List.append_assoc]
    rw [← hleft, leadingBlanks_append_skipBlanks, happend, leadingBlanks_append_skipBlanks]
  · constructor
    · exact blanks_leadingBlanks _
    · exact hform
    · exact blanks_leadingBlanks _
    · rwa [← hexpression]
    · exact blanks_leadingBlanks _
    · exact hne
    · have hfront : Stops isBlank (dropEndWhile isBlank (skipBlanks (textOf xs)) ++ behind) := by
        rw [hdrop]
        exact stops_skipBlanks _
      exact (stops_append hne).mp hfront
    · exact stops_dropEndWhile _ _
    · exact hbehind
    · exact hending
  · rwa [hoffset]
  · simp [p, Parts.assignment, Parts.valueOffset, Nat.add_assoc]

/-! ### Statements without comments -/

/-- Neither the front nor the back of a text is a blank, and its front does not lengthen an equals
sign. -/
structure IsTrimmed (v : List Char) : Prop where
  ne_nil : v ≠ []
  front : Stops (fun c => isBlank c || c == '=' || c == '>') v
  back : Stops isBlank v.reverse

lemma IsTrimmed.append {left between right : List Char} (hl : IsTrimmed left)
    (hr : IsTrimmed right) : IsTrimmed (left ++ between ++ right) := by
  constructor
  · simp [hl.ne_nil]
  · rw [List.append_assoc]
    exact (stops_append hl.ne_nil).mpr hl.front
  · rw [List.reverse_append]
    exact (stops_append (by simpa using hr.ne_nil)).mpr hr.back

lemma isTrimmed_of_forall {v : List Char} (hne : v ≠ [])
    (h : ∀ c ∈ v, isBlank c = false ∧ c ≠ '=' ∧ c ≠ '>') : IsTrimmed v := by
  constructor
  · exact hne
  · intro c hc
    obtain ⟨hb, heq, hgt⟩ := h c (List.mem_of_head? hc)
    simp [hb, heq, hgt]
  · intro c hc
    exact (h c (List.mem_reverse.mp (List.mem_of_head? hc))).1

lemma isTrimmed_of_isIdentifierPart {v : List Char} (hne : v ≠ [])
    (h : ∀ c ∈ v, isIdentifierPart c = true) : IsTrimmed v := by
  refine isTrimmed_of_forall hne fun c hc => ⟨not_isBlank_of_isIdentifierPart (h c hc), ?_, ?_⟩
  · exact ne_of_isIdentifierPart (h c hc) (by decide)
  · exact ne_of_isIdentifierPart (h c hc) (by decide)

lemma IsIdentifier.isTrimmed {name : List Char} (h : IsIdentifier name) : IsTrimmed name := by
  refine isTrimmed_of_isIdentifierPart ?_ h.part
  cases h with
  | mk hc hcs => simp

lemma isTrimmed_singleton {c : Char} (hc : c ∈ marks) (heq : c ≠ '=' ∧ c ≠ '>') :
    IsTrimmed [c] := by
  refine isTrimmed_of_forall (by simp) fun d hd => ?_
  rw [List.mem_singleton.mp hd]
  exact ⟨not_isBlank_of_mem_marks c hc, heq⟩

lemma isTrimmed_enclosed {c d : Char} (hc : c ∈ marks) (hd : d ∈ marks) (heq : c ≠ '=' ∧ c ≠ '>')
    (between : List Char) : IsTrimmed (c :: (between ++ [d])) := by
  constructor
  · simp
  · rw [stops_cons]
    simp [not_isBlank_of_mem_marks c hc, heq]
  · rw [List.reverse_cons, List.reverse_append]
    exact stops_cons.mpr (not_isBlank_of_mem_marks d hd)

lemma IsTarget.front {target : List Char} (h : IsTarget target) (after : List Char) :
    Stops (fun c => isBlank c || c == '=' || c == '>') (target ++ after) := by
  cases h with
  | mk hname h =>
    have htrimmed := hname.isTrimmed
    rw [List.append_assoc]
    exact (stops_append htrimmed.ne_nil).mpr htrimmed.front

/-- A blank does not lengthen an equals sign. -/
lemma stops_operator_of_isBlank {c : Char} (h : isBlank c = true) (rest : List Char) :
    Stops (fun c => c == '=' || c == '>') (c :: rest) := by
  rw [stops_cons, Bool.or_eq_false_iff, beq_eq_false_iff_ne, beq_eq_false_iff_ne]
  constructor <;> rintro rfl <;> cases h

/-- A statement with blanks around each part and a semicolon at its end. -/
def simpleParts (w₀ target w₁ w₂ v w₃ : List Char) : Parts :=
  { lead := w₀
    target := target
    gap := w₁
    before := w₂
    value := v
    behind := []
    ending := ';' :: w₃ }

lemma layout_simpleParts {w₀ w₁ w₂ w₃ target v : List Char} (h₀ : Blanks w₀) (h₁ : Blanks w₁)
    (h₂ : Blanks w₂) (h₃ : Blanks w₃) (ht : IsTarget target) (hv : IsTrimmed v) :
    (simpleParts w₀ target w₁ w₂ v w₃).Layout := by
  have hfront := hv.front
  constructor
  · exact h₀
  · exact ht
  · exact h₁
  · simp only [simpleParts, Parts.expression, List.append_assoc]
    cases w₂ with
    | nil =>
      rw [List.nil_append, stops_append hv.ne_nil]
      intro c hc
      have := hfront c hc
      simp_all
    | cons c w₂ => exact stops_operator_of_isBlank (h₂ c List.mem_cons_self) _
  · exact h₂
  · exact hv.ne_nil
  · intro c hc
    have := hfront c hc
    simp_all
  · exact hv.back
  · exact blanks_nil
  · exact .semicolon (isTrivia_of_blanks h₃)

end PublicPath.Proofs
