import PublicPath.Proofs.BundlerExpressions

/-!
# Assignments inside values

An assignment at the top level of a value is found by its equals sign, unless the sign may belong to
a comparison. A shift assignment has the mark of a comparison in front of its equals sign, so that
it alone is taken for a value, and a replacement drops it.
-/

namespace PublicPath.Proofs
open Text Statement

/-- What the assignment operators of the script language have in front of their equals sign. -/
def assignmentOperators : List (List Char) :=
  [[], ['+'], ['-'], ['*'], ['/'], ['%'], ['*', '*'], ['<', '<'], ['>', '>'], ['>', '>', '>'], ['&'],
    ['|'], ['^'], ['&', '&'], ['|', '|'], ['?', '?']]

def shiftOperators : List (List Char) := [['<', '<'], ['>', '>'], ['>', '>', '>']]

/-- The text in front of the equals sign of the inner assignment. -/
def beforeEquals (target left op : List Char) : List Char :=
  target ++ [' '] ++ '=' :: ' ' :: (left ++ ' ' :: op)

/-- An assignment whose value is an assignment. -/
def nestedAssignment (target left op right : List Char) : String :=
  String.ofList (beforeEquals target left op ++ '=' :: ' ' :: (right ++ [';']))

/-! ### Operators -/

lemma isPlain_of_mem_operatorMarks {c : Char} (h : c ∈ '%' :: '^' :: plainMarks) : IsPlain c := by
  rcases List.mem_cons.mp h with rfl | h
  · constructor <;> decide
  rcases List.mem_cons.mp h with rfl | h
  · constructor <;> decide
  · exact isPlain_of_mem_plainMarks h

lemma readsText_plain {cs : List Char} (h : ∀ c ∈ cs, IsPlain c) (after : List Char) (offset : Nat)
    (s : Context) : ReadsText after offset s cs
      ⟨s.opened, cs.getLastD s.previous, cs.getLastD s.significant⟩ := by
  induction cs generalizing offset s with
  | nil => exact readsText_nil after offset s
  | cons c cs ih =>
    have hc := (h c List.mem_cons_self).readsText (cs ++ after) offset s
    have htail := ih (fun d hd => h d (List.mem_cons_of_mem c hd)) (offset + byteLength [c])
      ⟨s.opened, c, c⟩
    rw [List.getLastD_cons, List.getLastD_cons]
    exact hc.append htail

/-- Behind an operand, an operator is read mark by mark. -/
lemma readsText_operator {op : List Char} (h : op ∈ assignmentOperators) (rest : List Char)
    (offset : Nat) {s : Context} (hs : EndsOperand s.significant) :
    ∃ t, ReadsText ('=' :: rest) offset s op t ∧ t.opened = s.opened ∧
      t.previous = op.getLastD s.previous := by
  by_cases hslash : op = ['/']
  · subst hslash
    have hstart : ¬ StartsComment ('/' :: '=' :: rest) := by simp [StartsComment]
    refine ⟨⟨s.opened, '/', '/'⟩, ?_, rfl, rfl⟩
    exact readsText_lexeme (.mark rfl rfl hstart (fun _ => hs))
      (.plain rfl rfl (fun h => absurd h (by decide)) (fun h => absurd h (by decide)))
  · have hmarks : ∀ op ∈ assignmentOperators, op ≠ ['/'] →
        op.all (fun c => ('%' :: '^' :: plainMarks).contains c) = true := by
      decide
    have hplain : ∀ c ∈ op, IsPlain c := fun c hc => isPlain_of_mem_operatorMarks
      (List.contains_iff_mem.mp (List.all_eq_true.mp (hmarks op h hslash) c hc))
    exact ⟨_, readsText_plain hplain _ offset s, rfl, rfl⟩

lemma isComparison_operator_iff {op : List Char} (h : op ∈ assignmentOperators) :
    isComparison (op.getLastD ' ') (some ' ') = true ↔ op ∈ shiftOperators := by
  have hall : ∀ op ∈ assignmentOperators,
      (isComparison (op.getLastD ' ') (some ' ') = true ↔ op ∈ shiftOperators) := by
    decide
  exact hall op h

lemma passes_shift {pre : Char → Prop} {follow : List Char → Prop} {op : List Char}
    (h : op ∈ shiftOperators) : Passes pre (op ++ ['=']) follow WantsOperand := by
  have hone : ∀ {pre : Char → Prop} {c : Char}, c ∈ plainMarks →
      Passes pre [c] (fun _ => True) (· = c) :=
    fun hc => passes_plain (isPlain_of_mem_plainMarks hc)
  simp only [shiftOperators, List.mem_cons, List.not_mem_nil, or_false] at h
  rcases h with rfl | rfl | rfl
  · exact (hone (c := '<') (by decide)).seq (passes_comparison (c := '<') (by decide) rfl rfl 1)
  · exact (hone (c := '>') (by decide)).seq (passes_comparison (c := '>') (by decide) rfl rfl 1)
  · have htwo : Passes pre ['>', '>'] (fun _ => True) (· = '>') :=
      (hone (c := '>') (by decide)).seq (hone (by decide))
    exact htwo.seq (passes_comparison (c := '>') (by decide) rfl rfl 1)

/-! ### Statements -/

section Statements

variable {target left op right : List Char}

/-- Where no comparison can be meant, whatever stands on the right does not matter. -/
lemma parse_chainedAssignment (ht : IsTarget target) (hleft : Expression left)
    (hop : op ∈ assignmentOperators) (hshift : op ∉ shiftOperators) (right : List Char) :
    Assignment.parse (nestedAssignment target left op right) =
      .error (.chainedAssignment (byteLength (beforeEquals target left op))) := by
  have hspace : Blanks [' '] := blanks_singleton rfl
  have hoperand : Passes WantsOperand ([' '] ++ left) (Stops isIdentifierPart) EndsOperand :=
    passes_space.seq (passes_expression hleft)
  obtain ⟨t, hread, hopened, hends⟩ := hoperand (' ' :: (op ++ '=' :: ' ' :: (right ++ [';'])))
    (byteLength ([] ++ target ++ [' ']) + 1) .start rfl (stops_of_mem_operandEnds (by decide) _)
  have hblank : ∀ offset, ReadsText (op ++ '=' :: ' ' :: (right ++ [';'])) offset t [' ']
      { t with previous := ' ' } := fun offset => readsText_lexeme (.blank rfl) (.blank ' ')
  obtain ⟨u, hmarks, huopened, huprevious⟩ := readsText_operator hop (' ' :: (right ++ [';'])) _
    (s := { t with previous := ' ' }) hends
  obtain ⟨xs, hxs, hreads⟩ := hread.append ((hblank _).append hmarks)
  have hprevious : isComparison u.previous (' ' :: (right ++ [';'])).head? = false := by
    rw [huprevious, List.head?_cons, ← Bool.not_eq_true, isComparison_operator_iff hop]
    exact hshift
  have hparse := parse_of_scanError blanks_nil ht hspace (by rw [hxs]; exact stops_cons.mpr rfl) hreads
    (scanValue_assignment (huopened.trans hopened) hprevious _)
  simpa [hxs, nestedAssignment, beforeEquals] using hparse

lemma parse_shiftAssignment (ht : IsTarget target) (hleft : Expression left)
    (hshift : op ∈ shiftOperators) (hright : Expression right) :
    ∃ a, Assignment.parse (nestedAssignment target left op right) = .ok a ∧
      a.target = String.ofList target ∧
      a.value = String.ofList (left ++ ' ' :: (op ++ '=' :: ' ' :: right)) := by
  have hspace : Blanks [' '] := blanks_singleton rfl
  have hsign : Passes EndsOperand ([' '] ++ (op ++ ['=']) ++ [' ']) (fun _ => True) WantsOperand :=
    (passes_space.seq (passes_shift hshift)).seq passes_space
  have hvalue : Passes WantsOperand (left ++ ' ' :: (op ++ ['=', ' ']) ++ right)
      (Stops isIdentifierPart) EndsOperand := by
    refine passes_between (passes_expression hleft) (by decide) ?_ (passes_expression hright)
    simpa using hsign
  have hparse := parse_simpleParts blanks_nil hspace hspace blanks_nil ht
    (hleft.isTrimmed.append hright.isTrimmed) hvalue (stops_of_mem_operandEnds (by decide) [])
  have hsource : String.ofList (simpleParts [] target [' '] [' ']
      (left ++ ' ' :: (op ++ ['=', ' ']) ++ right) []).source =
        nestedAssignment target left op right := by
    simp [simpleParts, Parts.source, Parts.expression, nestedAssignment, beforeEquals]
  refine ⟨_, hsource ▸ hparse, rfl, ?_⟩
  simp [simpleParts, Parts.assignment]

/-- Of the assignment operators at the top level of a value, all but the shifts are reported at
their equals sign. A shift assignment is taken for a value whatever its operands, so that a
replacement drops it. -/
theorem parse_nestedAssignment (ht : IsTarget target) (hleft : Expression left)
    (hop : op ∈ assignmentOperators) (hright : Expression right) :
    (op ∉ shiftOperators → Assignment.parse (nestedAssignment target left op right) =
      .error (.chainedAssignment (byteLength (beforeEquals target left op)))) ∧
    (op ∈ shiftOperators → ∃ a, Assignment.parse (nestedAssignment target left op right) = .ok a ∧
      a.target = String.ofList target ∧
      a.value = String.ofList (left ++ ' ' :: (op ++ '=' :: ' ' :: right)) ∧
      ∀ c : InitializerCall, c.replace (nestedAssignment target left op right) =
        .ok (c.assignTo (String.ofList target))) := by
  constructor
  · intro hshift
    exact parse_chainedAssignment ht hleft hop hshift right
  · intro hshift
    obtain ⟨a, hparse, htarget, hvalue⟩ := parse_shiftAssignment ht hleft hshift hright
    refine ⟨a, hparse, htarget, hvalue, fun c => ?_⟩
    rw [← htarget]
    exact replace_of_parse hparse c

end Statements

/-- A key with an equals sign in the target, an unsigned shift, an escaped quote on the right. -/
theorem parse_nestedAssignment_unsigned :
    IsTarget "r['=']".toList ∧ Expression ['b'] ∧ ['>', '>', '>'] ∈ assignmentOperators ∧
      Expression ('"' :: (['\\', '"'] ++ ['"'])) ∧
      nestedAssignment "r['=']".toList ['b'] ['>', '>', '>'] ('"' :: (['\\', '"'] ++ ['"'])) =
        "r['='] = b >>>= \"\\\"\";" ∧
      (['>', '>', '>'] ∉ shiftOperators → Assignment.parse (nestedAssignment "r['=']".toList ['b']
          ['>', '>', '>'] ('"' :: (['\\', '"'] ++ ['"']))) =
        .error (.chainedAssignment
          (byteLength (beforeEquals "r['=']".toList ['b'] ['>', '>', '>'])))) ∧
      (['>', '>', '>'] ∈ shiftOperators → ∃ a, Assignment.parse (nestedAssignment "r['=']".toList
          ['b'] ['>', '>', '>'] ('"' :: (['\\', '"'] ++ ['"']))) = .ok a ∧
        a.target = String.ofList "r['=']".toList ∧
        a.value = String.ofList (['b'] ++ ' ' :: (['>', '>', '>'] ++ '=' :: ' ' ::
          ('"' :: (['\\', '"'] ++ ['"'])))) ∧
        ∀ c : InitializerCall, c.replace (nestedAssignment "r['=']".toList ['b'] ['>', '>', '>']
            ('"' :: (['\\', '"'] ++ ['"']))) =
          .ok (c.assignTo (String.ofList "r['=']".toList))) := by
  have hscan : scanTarget 0 "r['=']".toList = .ok ("r['=']".toList, []) := by
    decide +kernel
  have ht := (isTarget_of_scanTarget hscan).1
  have hleft : Expression ['b'] := .identifier (.mk (by decide) (by simp))
  have hop : ['>', '>', '>'] ∈ assignmentOperators := by decide
  have hright : Expression ('"' :: (['\\', '"'] ++ ['"'])) := .quoted (.inl rfl) (.escape '"' .nil)
  exact ⟨ht, hleft, hop, hright, by decide +kernel, parse_nestedAssignment ht hleft hop hright⟩

/-- A shift assignment is replaced as if it were a value, while an addition is refused. -/
theorem replace_drops_shift :
    IsTarget ['x'] ∧ IsIdentifier ['b'] ∧ IsIdentifier ['c'] ∧
      Assignment.parse "x = b <<= c;" = .ok ⟨"x", "b <<= c", ⟨0, 1⟩, ⟨4, 11⟩⟩ ∧
      InitializerCall.replace ⟨"setPath", "checkout"⟩ "x = b <<= c;" =
        .ok "x = setPath('checkout');" ∧
      Assignment.parse "x = b += c;" = .error (.chainedAssignment 7) := by
  have hname : ∀ {c : Char}, isIdentifierStart c = true → IsIdentifier [c] :=
    fun hc => .mk hc (by simp)
  exact ⟨(hname rfl).isTarget, hname rfl, hname rfl, by decide +kernel, by decide +kernel,
    by decide +kernel⟩

end PublicPath.Proofs
