import PublicPath.Proofs.RefusedSources
import PublicPath.Text.Place

/-!
# Places of errors

An error of the parser names a byte of the source and tells what stands there. The offsets are sums
of byte lengths along the scan, so that each is where a character starts or where the source ends,
and an opening bracket that is never closed is named long after it was passed.
-/

namespace PublicPath

/-- The byte an error points at. -/
def StatementError.offset? : StatementError → Option Nat
  | .empty => none
  | .missingOperator offset | .unsupportedOperator _ offset | .invalidTarget _ offset
  | .emptyValue offset | .chainedAssignment offset | .unterminatedLiteral _ offset
  | .unbalancedDelimiter _ offset | .trailingCode offset => some offset

namespace Proofs
open Text Statement

/-- What an error says about the source from the byte on that it points at. -/
inductive PointsAt (cs : List Char) : StatementError → Prop
  | empty (h : Blanks cs) : PointsAt cs .empty
  | missingOperator : PointsAt cs (.missingOperator (byteLength cs))
  | invalidTarget {c : Char} {offset : Nat} {rest : List Char} (h : StandsAt cs offset (c :: rest))
      (hc : isBlank c = false) : PointsAt cs (.invalidTarget c offset)
  | unsupportedOperator {op : String} {offset : Nat} {rest : List Char}
      (h : StandsAt cs offset (op.toList ++ rest)) (hne : op ≠ "") (heq : op ≠ "=") :
      PointsAt cs (.unsupportedOperator op offset)
  | emptyValue {front w rest : List Char} (h : cs = front ++ '=' :: (w ++ rest)) (hw : Blanks w)
      (hrest : rest = [] ∨ ∃ back, rest = ';' :: back) :
      PointsAt cs (.emptyValue (byteLength (front ++ ['='])))
  | chainedAssignment {offset : Nat} {rest : List Char} (h : StandsAt cs offset ('=' :: rest)) :
      PointsAt cs (.chainedAssignment offset)
  | literal {q : Char} {offset : Nat} {rest : List Char} (hq : isQuote q = true ∨ q = '/')
      (h : StandsAt cs offset (q :: rest)) : PointsAt cs (.unterminatedLiteral q offset)
  | comment {offset : Nat} {rest : List Char} (h : StandsAt cs offset ('/' :: '*' :: rest)) :
      PointsAt cs (.unterminatedLiteral '*' offset)
  | unbalancedDelimiter {c : Char} {offset : Nat} {rest : List Char}
      (hc : isOpener c = true ∨ openerOf c ≠ none) (h : StandsAt cs offset (c :: rest)) :
      PointsAt cs (.unbalancedDelimiter c offset)
  | trailingCode {front between rest : List Char} {c : Char}
      (h : cs = front ++ ';' :: (between ++ c :: rest)) (hbetween : IsTriviaBefore (c :: rest) between)
      (hc : isBlank c = false) (hs : ¬ StartsComment (c :: rest)) :
      PointsAt cs (.trailingCode (byteLength (front ++ ';' :: between)))

/-! ### Bytes and characters -/

/-- An error that tells what stands in a source points at a character of it, or at its end. -/
lemma PointsAt.isValid {source : String} {e : StatementError} (h : PointsAt source.toList e)
    {offset : Nat} (hoffset : e.offset? = some offset) : String.Pos.Raw.IsValid source ⟨offset⟩ := by
  cases h <;> cases hoffset
  case missingOperator =>
    have hplace : StandsAt source.toList (byteLength source.toList) [] :=
      ⟨source.toList, by simp, rfl⟩
    exact hplace.isValid
  case emptyValue front w rest hcs hw hrest =>
    have hplace : StandsAt source.toList (byteLength (front ++ ['='])) (w ++ rest) :=
      ⟨front ++ ['='], by simp [hcs], rfl⟩
    exact hplace.isValid
  case trailingCode front between rest c hcs hbetween hc hs =>
    have hplace : StandsAt source.toList (byteLength (front ++ ';' :: between)) (c :: rest) :=
      ⟨front ++ ';' :: between, by simp [hcs], rfl⟩
    exact hplace.isValid
  all_goals exact StandsAt.isValid ‹_›

/-! ### Targets and operators -/

section Front

variable {front rest : List Char} {e : StatementError}

lemma pointsAt_unexpectedAt (h : Stops isBlank rest) :
    PointsAt (front ++ rest) (unexpectedAt (byteLength front) rest) := by
  cases rest with
  | nil =>
    rw [List.append_nil]
    exact .missingOperator
  | cons c rest => exact .invalidTarget (standsAt_append front (c :: rest)) (stops_cons.mp h)

lemma pointsAt_of_targetStuck (h : TargetStuck (byteLength front) rest e) :
    PointsAt (front ++ rest) e := by
  cases h with
  | unexpected more hrest =>
    rw [← byteLength_append, ← List.append_assoc]
    exact pointsAt_unexpectedAt hrest
  | @key more q rest hq hnone =>
    rw [← byteLength_append, ← List.append_assoc]
    have hquote : isQuote q = true := by
      rcases hq with rfl | rfl <;> rfl
    exact .literal (.inl hquote) (standsAt_append (front ++ more) (q :: rest))

/-- At the place of the operator stands another one, or nothing that is an operator. -/
lemma operator_cases {offset : Nat} (h : Assignment.scanOperator offset rest = .error e) :
    e = unexpectedAt offset rest ∨ ∃ op left, rest = op ++ left ∧ op ≠ [] ∧ op ≠ ['='] ∧
      e = .unsupportedOperator (String.ofList op) offset := by
  unfold Assignment.scanOperator at h
  split at h
  · cases h
    exact .inl rfl
  · rename_i left
    cases h
    exact .inr ⟨['=', '='], left, rfl, by simp, by simp, rfl⟩
  · rename_i left
    cases h
    exact .inr ⟨['=', '>'], left, rfl, by simp, by simp, rfl⟩
  · cases h
  · rename_i c left _ _ _
    dsimp only at h
    split at h
    · rename_i hop
      cases h
      refine .inr ⟨_, ((left.dropWhile Assignment.isOperatorChar).takeWhile (· = '=')).drop 1 ++
        (left.dropWhile Assignment.isOperatorChar).dropWhile (· = '='), ?_, by simp, ?_, rfl⟩
      · simp only [List.append_assoc, List.cons_append]
        rw [← List.append_assoc (List.take 1 _), List.take_append_drop, List.takeWhile_append_dropWhile,
          List.takeWhile_append_dropWhile]
      · intro hequals
        rw [List.cons_append, List.cons.injEq] at hequals
        rw [hequals.1] at hop
        exact absurd hop (by decide)
    · cases h
      exact .inl rfl

lemma pointsAt_of_scanOperator (hrest : Stops isBlank rest)
    (h : Assignment.scanOperator (byteLength front) rest = .error e) : PointsAt (front ++ rest) e := by
  rcases operator_cases h with rfl | ⟨op, left, rfl, hne, heq, rfl⟩
  · exact pointsAt_unexpectedAt hrest
  · have hplace : StandsAt (front ++ (op ++ left)) (byteLength front)
        ((String.ofList op).toList ++ left) := by
      rw [String.toList_ofList]
      exact standsAt_append front (op ++ left)
    apply PointsAt.unsupportedOperator hplace
    · rwa [Ne, ← String.toList_inj, String.toList_ofList]
    · rwa [Ne, ← String.toList_inj, String.toList_ofList]

end Front

/-! ### Values -/

/-- A lexeme that never ends is named by what opens it. -/
lemma unclosed_lexeme {last c q : Char} {rest : List Char}
    (h : Lexeme.next last c rest = .error q) :
    (q = '*' ∧ ∃ left, c :: rest = '/' :: '*' :: left) ∨ (q = c ∧ (isQuote q = true ∨ q = '/')) := by
  unfold Lexeme.next at h
  split at h
  · cases h
  · rename_i hread
    cases h
    exact .inl ⟨rfl, unclosed_front hread⟩
  split at h
  · cases h
  split at h
  · rename_i hslash
    split at h <;> cases h
    exact .inr ⟨hslash.1.symm, .inr rfl⟩
  split at h
  · rename_i hq
    split at h <;> cases h
    exact .inr ⟨rfl, .inl hq⟩
  · cases h

/-- Every bracket that is open in a context stands at its place in the source. -/
def KeepsPlaces (cs : List Char) (s : Context) : Prop :=
  ∀ c place, (c, place) ∈ s.opened → isOpener c = true ∧ ∃ rest, StandsAt cs place (c :: rest)

section Places

variable {cs after : List Char} {s t : Context} {offset : Nat} {e : StatementError}

lemma KeepsPlaces.step {next : Option Char} {x : Lexeme} (h : KeepsPlaces cs s)
    (hx : ContextStep s offset next x t) (hcs : StandsAt cs offset (x.text ++ after)) :
    KeepsPlaces cs t := by
  cases hx with
  | comment | blank | regex | quoted => exact h
  | opens ho =>
    intro d place hd
    rcases List.mem_cons.mp hd with hd | hd
    · cases hd
      exact ⟨ho, after, hcs⟩
    · exact h d place hd
  | closes hc hs =>
    intro d place hd
    apply h d place
    rw [hs]
    exact List.mem_cons_of_mem _ hd
  | plain => exact h

lemma KeepsPlaces.reads {xs : List Lexeme} (h : KeepsPlaces cs s)
    (hr : Reads after offset s xs t) (hcs : StandsAt cs offset (textOf xs ++ after)) :
    KeepsPlaces cs t := by
  induction hr with
  | nil => exact h
  | cons hx hstep _ ih =>
    rw [textOf_cons, List.append_assoc] at hcs
    exact ih (h.step hstep hcs) hcs.skip

/-- The brackets that are open in a value stand behind the operator. -/
lemma keepsPlaces_of_reads {front : List Char} {xs : List Lexeme}
    (h : Reads after (byteLength front + 1) .start xs t) :
    KeepsPlaces (front ++ '=' :: textOf xs ++ after) t := by
  have hplace : StandsAt (front ++ '=' :: textOf xs ++ after) (byteLength front + 1)
      (textOf xs ++ after) :=
    ⟨front ++ ['='], by simp, byteLength_operator front []⟩
  apply KeepsPlaces.reads _ h hplace
  intro c place hc
  cases hc

lemma pointsAt_of_trailingStuck {front rest : List Char}
    (h : TrailingStuck (byteLength front + 1) rest e) : PointsAt (front ++ ';' :: rest) e := by
  have hsemicolon := byteLength_mark (c := ';') rfl front
  cases h with
  | @code between left c hbetween hc hs =>
    rw [← hsemicolon]
    exact .trailingCode rfl hbetween hc hs
  | @unclosed between left hbetween hread =>
    obtain ⟨rest, rfl⟩ := unclosed_front hread
    have hplace : StandsAt (front ++ ';' :: (between ++ '/' :: '*' :: rest)) (byteLength front + 1)
        (between ++ '/' :: '*' :: rest) :=
      ⟨front ++ [';'], by simp, hsemicolon []⟩
    exact .comment hplace.skip

lemma pointsAt_of_valueStuck {front : List Char} (hs : KeepsPlaces (front ++ after) s)
    (h : ValueStuck s (byteLength front) after e) : PointsAt (front ++ after) e := by
  cases h with
  | @opened c place outer ho =>
    obtain ⟨hc, rest, hplace⟩ := hs c place (by rw [ho]; exact List.mem_cons_self)
    exact .unbalancedDelimiter (.inl hc) hplace
  | @unclosed c q rest hx =>
    have hplace := standsAt_append front (c :: rest)
    rcases unclosed_lexeme hx with ⟨rfl, left, hleft⟩ | ⟨rfl, hq⟩
    · rw [hleft] at hplace ⊢
      exact .comment hplace
    · exact .literal hq hplace
  | @closer c opener rest hc _ =>
    exact .unbalancedDelimiter (.inr (by simp [hc])) (standsAt_append front (c :: rest))
  | @assignment rest _ _ => exact .chainedAssignment (standsAt_append front ('=' :: rest))
  | trailing _ htrailing => exact pointsAt_of_trailingStuck htrailing

end Places

/-! ### Sources -/

lemma pointsAt_of_refused {cs : List Char} {e : StatementError} (h : Refused cs e) :
    PointsAt cs e := by
  cases h with
  | empty hblank => exact .empty hblank
  | target _ hrest _ ht => exact pointsAt_of_targetStuck (targetStuck_of_scanTarget hrest ht)
  | @operator lead target gap rest e _ _ _ hrest hop =>
    rw [← List.append_assoc, ← List.append_assoc]
    exact pointsAt_of_scanOperator hrest hop
  | @value lead target gap after xs t e _ _ _ _ hreads hstuck =>
    rw [← List.cons_append, ← List.append_assoc]
    exact pointsAt_of_valueStuck (keepsPlaces_of_reads hreads) hstuck
  | @noValue lead target gap w ending _ _ _ hw hending =>
    have hoffset : byteLength (lead ++ target ++ gap) + 1 =
        byteLength (lead ++ target ++ gap ++ ['=']) := (byteLength_operator _ []).symm
    rw [hoffset]
    apply PointsAt.emptyValue rfl hw
    cases hending with
    | source => exact .inl rfl
    | semicolon => exact .inr ⟨_, rfl⟩

/-- Every error points at what it names, and it points at a character or at the end of the source.
The error without a place is that of white space alone. -/
theorem parse_error_points (source : String) :
    (Assignment.parse source = .error .empty ↔ Blanks source.toList) ∧
    ∀ e, Assignment.parse source = .error e → PointsAt source.toList e ∧
      ∀ offset, e.offset? = some offset → String.Pos.Raw.IsValid source ⟨offset⟩ := by
  have hpoints : ∀ e, Assignment.parse source = .error e → PointsAt source.toList e :=
    fun e h => pointsAt_of_refused (parse_eq_error_iff.mp h)
  refine ⟨⟨fun h => ?_, fun h => ?_⟩, fun e h => ⟨hpoints e h, fun offset => (hpoints e h).isValid⟩⟩
  · cases hpoints _ h with
    | empty hblank => exact hblank
  · exact parse_eq_error_iff.mpr (.empty h)

/-- A bracket that is closed by another one, behind characters of two and four bytes. -/
theorem parse_error_points_bracket :
    Assignment.parse "ä[ '😀' ] = f(\x7b b: 1)" = .error (.unbalancedDelimiter ')' 23) ∧
      PointsAt "ä[ '😀' ] = f(\x7b b: 1)".toList (.unbalancedDelimiter ')' 23) ∧
      String.Pos.Raw.IsValid "ä[ '😀' ] = f(\x7b b: 1)" ⟨23⟩ := by
  have hparse : Assignment.parse "ä[ '😀' ] = f(\x7b b: 1)" = .error (.unbalancedDelimiter ')' 23) := by
    decide +kernel
  obtain ⟨hpoints, hvalid⟩ := (parse_error_points _).2 _ hparse
  exact ⟨hparse, hpoints, hvalid 23 rfl⟩

end Proofs

end PublicPath
