import PublicPath.Proofs.EndedStatements

/-!
# Text around a statement

White space in front of a source moves the answer: the parser takes no decision by an offset, so that
every place it names lies as many bytes farther. Behind a statement that a semicolon ended, a line of
white space and comments changes nothing.
-/

namespace PublicPath

/-- The error with `n` bytes more in front of the source. -/
def StatementError.shift (n : Nat) : StatementError → StatementError
  | .empty => .empty
  | .missingOperator offset => .missingOperator (n + offset)
  | .unsupportedOperator operator offset => .unsupportedOperator operator (n + offset)
  | .invalidTarget found offset => .invalidTarget found (n + offset)
  | .emptyValue offset => .emptyValue (n + offset)
  | .chainedAssignment offset => .chainedAssignment (n + offset)
  | .unterminatedLiteral quote offset => .unterminatedLiteral quote (n + offset)
  | .unbalancedDelimiter delimiter offset => .unbalancedDelimiter delimiter (n + offset)
  | .trailingCode offset => .trailingCode (n + offset)

def Span.shift (n : Nat) (s : Span) : Span := ⟨n + s.start, n + s.stop⟩

def Assignment.shift (n : Nat) (a : Assignment) : Assignment :=
  { a with
    targetSpan := a.targetSpan.shift n
    valueSpan := a.valueSpan.shift n }

def Statement.Context.shift (n : Nat) (s : Context) : Context :=
  { s with opened := s.opened.map fun (c, place) => (c, n + place) }

namespace Proofs
open Text Statement

/-- What a source is read as with `n` bytes more in front of it. -/
def shiftAnswer (n : Nat) : Except StatementError Assignment → Except StatementError Assignment
  | .ok a => .ok (a.shift n)
  | .error e => .error (e.shift n)

/-! ### Targets and operators -/

section Target

variable (n offset : Nat) (cs : List Char)

lemma unexpectedAt_shift : unexpectedAt (n + offset) cs = (unexpectedAt offset cs).shift n := by
  cases cs <;> rfl

lemma scanIdentifier_shift :
    scanIdentifier (n + offset) cs = (scanIdentifier offset cs).mapError (·.shift n) := by
  cases cs with
  | nil => rfl
  | cons c rest =>
    rw [scanIdentifier, scanIdentifier]
    split <;> rfl

lemma scanKey_shift : scanKey (n + offset) cs = (scanKey offset cs).mapError (·.shift n) := by
  cases cs with
  | nil => rfl
  | cons c rest =>
    rw [scanKey, scanKey]
    split
    · cases closeQuoted c rest <;> rfl
    · split <;> rfl

lemma scanMember_shift :
    scanMember (n + offset) cs = (scanMember offset cs).mapError (·.shift n) := by
  rw [scanMember, scanMember, Nat.add_assoc, scanIdentifier_shift]
  cases scanIdentifier (offset + byteLength (leadingBlanks cs)) (skipBlanks cs) <;> rfl

lemma scanIndex_shift : scanIndex (n + offset) cs = (scanIndex offset cs).mapError (·.shift n) := by
  rw [scanIndex, scanIndex, Nat.add_assoc, scanKey_shift]
  cases scanKey (offset + byteLength (leadingBlanks cs)) (skipBlanks cs) with
  | error e => rfl
  | ok key =>
    simp only [Except.mapError]
    split
    · rfl
    · rw [Nat.add_assoc, unexpectedAt_shift]

lemma scanAccess_shift :
    scanAccess (n + offset) cs = (scanAccess offset cs).mapError (·.shift n) := by
  have hassoc : n + offset + byteLength (leadingBlanks cs) + 1 =
      n + (offset + byteLength (leadingBlanks cs) + 1) := by
    omega
  simp only [scanAccess, hassoc]
  split
  · rename_i rest _
    rw [scanMember_shift]
    cases scanMember (offset + byteLength (leadingBlanks cs) + 1) rest <;> rfl
  · rename_i rest _
    rw [scanIndex_shift]
    cases scanIndex (offset + byteLength (leadingBlanks cs) + 1) rest <;> rfl
  · rfl

lemma scanAccesses_shift :
    scanAccesses (n + offset) cs = (scanAccesses offset cs).mapError (·.shift n) := by
  fun_induction scanAccesses offset cs with
  | case1 offset cs e ha =>
    apply scanAccesses_error
    rw [scanAccess_shift, ha]
    rfl
  | case2 offset cs ha =>
    apply scanAccesses_none
    rw [scanAccess_shift, ha]
    rfl
  | case3 offset cs taken left ha hlt ih =>
    have hsome : scanAccess (n + offset) cs = .ok (some (taken, left)) := by
      rw [scanAccess_shift, ha]
      rfl
    rw [scanAccesses_some hsome, Nat.add_assoc, ih]
    cases scanAccesses (offset + byteLength taken) left <;> rfl

lemma scanTarget_shift : scanTarget (n + offset) cs = (scanTarget offset cs).mapError (·.shift n) := by
  rw [scanTarget, scanTarget, scanIdentifier_shift]
  cases scanIdentifier offset cs with
  | error e => rfl
  | ok name =>
    simp only [Except.mapError]
    rw [Nat.add_assoc, scanAccesses_shift]
    cases scanAccesses (offset + byteLength name.1) name.2 <;> rfl

lemma scanOperator_shift : Assignment.scanOperator (n + offset) cs =
    (Assignment.scanOperator offset cs).mapError (·.shift n) := by
  unfold Assignment.scanOperator
  split
  · rfl
  · rfl
  · rfl
  · rfl
  · split <;> rfl

end Target

/-! ### Values -/

section Value

variable {s t : Context} {offset : Nat} {after cs : List Char} {e : StatementError}

lemma ContextStep.shift {next : Option Char} {x : Lexeme} (h : ContextStep s offset next x t)
    (n : Nat) : ContextStep (s.shift n) (n + offset) next x (t.shift n) := by
  cases h with
  | comment text => exact .comment text
  | blank c => exact .blank c
  | regex text => exact .regex text
  | quoted q text => exact .quoted q text
  | opens hc => exact .opens hc
  | closes hc hs =>
    apply ContextStep.closes hc
    rw [Context.shift, hs]
    rfl
  | plain ho hc hend hassign =>
    have hopened : (s.shift n).opened = [] ↔ s.opened = [] := List.map_eq_nil_iff
    apply ContextStep.plain ho hc
    · intro he
      rw [Ne, hopened]
      exact hend he
    · intro he hs
      exact hassign he (hopened.mp hs)

lemma Reads.shift {xs : List Lexeme} (h : Reads after offset s xs t) (n : Nat) :
    Reads after (n + offset) (s.shift n) xs (t.shift n) := by
  induction h with
  | nil => exact .nil _ _
  | cons hx hstep _ ih =>
    rw [← Nat.add_assoc] at ih
    exact .cons hx (hstep.shift n) ih

lemma TrailingStuck.shift (h : TrailingStuck offset cs e) (n : Nat) :
    TrailingStuck (n + offset) cs (e.shift n) := by
  cases h with
  | code hfront hc hs =>
    rw [StatementError.shift, ← Nat.add_assoc]
    exact .code hfront hc hs
  | unclosed hfront hread =>
    rw [StatementError.shift, ← Nat.add_assoc]
    exact .unclosed hfront hread

lemma ValueStuck.shift (h : ValueStuck s offset cs e) (n : Nat) :
    ValueStuck (s.shift n) (n + offset) cs (e.shift n) := by
  have hopened : s.opened = [] → (s.shift n).opened = [] := List.map_eq_nil_iff.mpr
  cases h with
  | opened hs =>
    apply ValueStuck.opened
    rw [Context.shift, hs]
    rfl
  | unclosed hx => exact .unclosed hx
  | closer hc hs =>
    apply ValueStuck.closer hc
    intro place outer ho
    obtain ⟨⟨d, place'⟩, outer', hs', hd, -⟩ := List.map_eq_cons_iff.mp ho
    cases hd
    exact hs place' outer' hs'
  | assignment hs hcompares => exact .assignment (hopened hs) hcompares
  | trailing hs htrailing => exact .trailing (hopened hs) (htrailing.shift n)

end Value

/-! ### Sources -/

lemma blanks_append {v w : List Char} (hv : Blanks v) (hw : Blanks w) : Blanks (v ++ w) := by
  intro c hc
  rcases List.mem_append.mp hc with hc | hc
  · exact hv c hc
  · exact hw c hc

section Source

variable {w : List Char} {source : String}

lemma parse_blanks_append_ok (hw : Blanks w) {a : Assignment}
    (h : Assignment.parse source = .ok a) :
    Assignment.parse (String.ofList w ++ source) = .ok (a.shift (byteLength w)) := by
  obtain ⟨p, xs, t, hsource, hlayout, hxs, hreads, hopened, rfl⟩ := reads_of_parse h
  let q : Parts := { p with lead := w ++ p.lead }
  have hlayout' : q.Layout := { hlayout with lead := blanks_append hw hlayout.lead }
  have hoffset : q.valueOffset = byteLength w + p.valueOffset := by
    simp [q, Parts.valueOffset, Nat.add_assoc]
  have hreads' : Reads q.ending q.valueOffset .start xs (t.shift (byteLength w)) := by
    rw [hoffset]
    exact hreads.shift (byteLength w)
  have hparse := parse_of_reads hlayout' hxs hreads' (List.map_eq_nil_iff.mpr hopened)
  have hwhole : String.ofList q.source = String.ofList w ++ source := by
    rw [← String.toList_inj, String.toList_append, ← hsource]
    simp [q, Parts.source, Parts.expression]
  rw [hwhole] at hparse
  rw [hparse]
  simp [q, Parts.assignment, Parts.valueOffset, Assignment.shift, Span.shift, Nat.add_assoc]

lemma Refused.behind_blanks {cs : List Char} {e : StatementError} (hw : Blanks w)
    (h : Refused cs e) : Refused (w ++ cs) (e.shift (byteLength w)) := by
  have hoffset : ∀ lead target gap : List Char, byteLength w + (byteLength (lead ++ target ++ gap) + 1) =
      byteLength (w ++ lead ++ target ++ gap) + 1 := by
    intro lead target gap
    simp [Nat.add_assoc]
  cases h with
  | empty hblank => exact .empty (blanks_append hw hblank)
  | @target lead rest e hlead hrest hne ht =>
    rw [← List.append_assoc]
    apply Refused.target (blanks_append hw hlead) hrest hne
    rw [byteLength_append, scanTarget_shift, ht]
    rfl
  | @operator lead target gap rest e hlead ht hgap hrest hop =>
    rw [← List.append_assoc]
    apply Refused.operator (blanks_append hw hlead) _ hgap hrest
    · rw [List.append_assoc, List.append_assoc, ← List.append_assoc lead, byteLength_append,
        scanOperator_shift, hop]
      rfl
    · rw [byteLength_append, scanTarget_shift, ht]
      rfl
  | @value lead target gap after xs t e hlead ht hgap hop hreads hstuck =>
    have hplace : byteLength w + byteLength (lead ++ target ++ gap ++ '=' :: textOf xs) =
        byteLength (w ++ lead ++ target ++ gap ++ '=' :: textOf xs) := by
      simp
    have hreads' := hreads.shift (byteLength w)
    have hstuck' := hstuck.shift (byteLength w)
    rw [hoffset] at hreads'
    rw [hplace] at hstuck'
    have hvalue := Refused.value (blanks_append hw hlead) ht hgap hop hreads' hstuck'
    simpa only [List.append_assoc] using hvalue
  | @noValue lead target gap v ending hlead ht hgap hv hending =>
    have hnone := Refused.noValue (blanks_append hw hlead) ht hgap hv hending
    rw [← hoffset] at hnone
    simpa only [List.append_assoc, StatementError.shift] using hnone

/-- White space in front of a source moves what is said about it. -/
lemma parse_blanks_append (hw : Blanks w) (source : String) :
    Assignment.parse (String.ofList w ++ source) =
      shiftAnswer (byteLength w) (Assignment.parse source) := by
  cases h : Assignment.parse source with
  | ok a => exact parse_blanks_append_ok hw h
  | error e =>
    rw [parse_eq_error_iff] at h
    change _ = Except.error (e.shift (byteLength w))
    rw [parse_eq_error_iff, String.toList_append, String.toList_ofList]
    exact h.behind_blanks hw

/-- White space in front of a source moves every span and every error by its bytes. A line of white
space and comments behind a statement that a semicolon ended changes nothing. -/
theorem parse_surrounded (source : String) :
    (∀ w, Blanks w → Assignment.parse (String.ofList w ++ source) =
      shiftAnswer (byteLength w) (Assignment.parse source)) ∧
    ∀ a, Assignment.parse source = .ok a → IsTerminated source a → ∀ line, IsTrivia line →
      Assignment.parse (source ++ "\n" ++ String.ofList line) = .ok a := by
  constructor
  · intro w hw
    exact parse_blanks_append hw source
  · intro a h hend line hline
    have hwhole : source ++ "\n" ++ String.ofList line = source ++ String.ofList ('\n' :: line) := by
      rw [← String.toList_inj]
      simp
    have htrivia : IsTrivia ('\n' :: line) := .blank rfl hline
    rw [hwhole, parse_append_line h hend, checkTrailing_of htrivia]
    rfl

end Source

/-- Spaces of one and of three bytes in front, an open comment line in the source and two comments
behind it. -/
theorem parse_surrounded_comments :
    Assignment.parse "x = 'ä'; // y" = .ok ⟨"x", "'ä'", ⟨0, 1⟩, ⟨4, 8⟩⟩ ∧
      IsTerminated "x = 'ä'; // y" ⟨"x", "'ä'", ⟨0, 1⟩, ⟨4, 8⟩⟩ ∧
      Blanks [' ', '\u2003'] ∧ IsTrivia "/* ; */ // z".toList ∧
      Assignment.parse (String.ofList [' ', '\u2003'] ++ "x = 'ä'; // y") =
        .ok ⟨"x", "'ä'", ⟨4, 5⟩, ⟨8, 12⟩⟩ ∧
      Assignment.parse ("x = 'ä'; // y" ++ "\n" ++ String.ofList "/* ; */ // z".toList) =
        .ok ⟨"x", "'ä'", ⟨0, 1⟩, ⟨4, 8⟩⟩ := by
  have hparse : Assignment.parse "x = 'ä'; // y" = .ok ⟨"x", "'ä'", ⟨0, 1⟩, ⟨4, 8⟩⟩ := by
    decide +kernel
  have hend : IsTerminated "x = 'ä'; // y" ⟨"x", "'ä'", ⟨0, 1⟩, ⟨4, 8⟩⟩ :=
    ⟨" // y".toList, "x = 'ä'".toList, [], by decide +kernel, blanks_nil, by decide +kernel⟩
  have hw : Blanks [' ', '\u2003'] := by
    simp [Blanks, isBlank]
  have hcheck : checkTrailing 0 "/* ; */ // z".toList = .ok () := by
    decide +kernel
  have hline := isTrivia_of_checkTrailing hcheck
  obtain ⟨hfront, hbehind⟩ := parse_surrounded "x = 'ä'; // y"
  have hmoved := hfront _ hw
  rw [hparse] at hmoved
  exact ⟨hparse, hend, hw, hline, hmoved, hbehind _ hparse hend _ hline⟩

end Proofs

end PublicPath
