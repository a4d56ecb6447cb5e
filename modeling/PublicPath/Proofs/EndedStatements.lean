import PublicPath.Proofs.FollowingText
import PublicPath.Proofs.RefusedSources

/-!
# Statements that a semicolon ends

What stands behind the semicolon of a statement has no part in what is read, it is only checked. So
a text behind a whole source is checked too, once the white space and the comments of the source are
passed, and a line feed between the two ends the last comment of the source.
-/

namespace PublicPath.Proofs
open Text Statement

/-- Behind the value and white space stands a semicolon, and behind the semicolon `rest`. -/
def EndsStatement (source : String) (a : Assignment) (rest : List Char) : Prop :=
  ∃ front w, source.toList = front ++ w ++ ';' :: rest ∧ Blanks w ∧
    byteLength front = a.valueSpan.stop

/-- A semicolon ends the statement, and not the end of the source. -/
def IsTerminated (source : String) (a : Assignment) : Prop :=
  ∃ rest, EndsStatement source a rest

/-! ### Endings -/

section Ending

variable {source : String} {p : Parts} {rest : List Char}

/-- The text through the value of a statement. -/
def Parts.throughValue (p : Parts) : List Char :=
  p.lead ++ p.target ++ p.gap ++ '=' :: (p.before ++ p.value)

lemma byteLength_throughValue (p : Parts) :
    byteLength p.throughValue = p.assignment.valueSpan.stop := by
  rw [Parts.throughValue, byteLength_operator]
  rfl

lemma source_throughValue (p : Parts) : p.source = p.throughValue ++ (p.behind ++ p.ending) := by
  simp [Parts.source, Parts.expression, Parts.throughValue]

lemma ending_of_endsStatement (hsource : p.source = source.toList) (hlayout : p.Layout)
    (h : EndsStatement source p.assignment rest) : p.ending = ';' :: rest := by
  obtain ⟨front, w, hfront, hw, hlength⟩ := h
  have hwhole : p.throughValue ++ (p.behind ++ p.ending) = front ++ (w ++ ';' :: rest) := by
    rw [← source_throughValue, hsource, hfront, List.append_assoc]
  obtain ⟨-, hback⟩ := append_inj_of_byteLength hwhole ((byteLength_throughValue p).trans hlength.symm)
  have hsemicolon : ∀ rest, Stops isBlank (';' :: rest) := fun _ => stops_cons.mpr rfl
  have hskip := congrArg skipBlanks hback
  rw [skipBlanks_run hw (hsemicolon rest)] at hskip
  have hending := hlayout.ending
  generalize p.ending = ending at hskip hending
  cases hending with
  | source =>
    rw [skipBlanks_run hlayout.behind stops_nil] at hskip
    cases hskip
  | semicolon => rwa [skipBlanks_run hlayout.behind (hsemicolon _)] at hskip

lemma isTerminated_iff (hsource : p.source = source.toList) (hlayout : p.Layout) :
    IsTerminated source p.assignment ↔ p.ending ≠ [] := by
  constructor
  · rintro ⟨rest, h⟩
    simp [ending_of_endsStatement hsource hlayout h]
  · intro hne
    obtain ⟨c, rest, hc⟩ := List.exists_cons_of_ne_nil hne
    have hending := hlayout.ending
    rw [hc] at hending
    cases hending with
    | semicolon =>
      refine ⟨rest, p.throughValue, p.behind, ?_, hlayout.behind, byteLength_throughValue p⟩
      rw [← hsource, source_throughValue, hc, List.append_assoc]

end Ending

/-! ### Text behind the end -/

lemma IsTrivia.before_nil {cs : List Char} (h : IsTrivia cs) : IsTriviaBefore [] cs := by
  induction h with
  | nil => exact .nil
  | blank hc _ ih => exact .blank hc ih
  | @comment text after hc _ ih =>
    rw [← after.append_nil] at hc
    exact .comment hc ih

lemma IsTriviaBefore.follow {after after' cs : List Char} (hfollow : FollowsAs after after')
    (h : IsTriviaBefore after cs) : IsTriviaBefore after' cs := by
  induction h with
  | nil => exact .nil
  | blank hc _ ih => exact .blank hc ih
  | @comment text cs hc _ ih => exact .comment (hc.follow (hfollow.prepend cs)) ih

/-- What stands behind the semicolon of a statement is checked, and nothing else is done with it. -/
lemma parse_semicolon {lead target gap rest : List Char} {xs : List Lexeme} {t : Context}
    (hlead : Blanks lead) (ht : IsTarget target) (hgap : Blanks gap)
    (hop : Stops (fun c => c == '=' || c == '>') (textOf xs ++ ';' :: rest))
    (hreads : Reads (';' :: rest) (byteLength (lead ++ target ++ gap) + 1) .start xs t)
    (hopened : t.opened = []) :
    Assignment.parse (String.ofList (lead ++ target ++ gap ++ '=' :: (textOf xs ++ ';' :: rest))) =
      (checkTrailing (byteLength (lead ++ target ++ gap ++ '=' :: textOf xs) + 1) rest).bind
        fun _ => ofScanned lead target gap (textOf xs) := by
  rw [parse_eq_bind hlead ht hgap hop, scanValue_textOf hreads, scanValue_semicolon hopened,
    byteLength_operator]
  cases checkTrailing (byteLength (lead ++ target ++ gap) + 1 + byteLength (textOf xs) + 1) rest with
  | error e => rfl
  | ok => simp [Except.map, Except.bind]

/-- A text behind a statement that a semicolon ends is only checked. -/
theorem parse_append_trivia {source : String} {a : Assignment} {rest more : List Char}
    (h : Assignment.parse source = .ok a) (hend : EndsStatement source a rest)
    (hrest : IsTriviaBefore more rest) :
    Assignment.parse (source ++ String.ofList more) =
      (checkTrailing (byteLength source.toList) more).map fun _ => a := by
  obtain ⟨p, xs, t, hsource, hlayout, hxs, hreads, hopened, rfl⟩ := reads_of_parse h
  have hending := ending_of_endsStatement hsource hlayout hend
  have hoperator := hlayout.operator
  rw [hending] at hreads hoperator
  rw [← hxs] at hoperator
  have hstatement : source.toList = p.lead ++ p.target ++ p.gap ++ '=' :: (textOf xs ++ ';' :: rest) := by
    rw [← hsource, Parts.source, hxs, hending]
  have hlonger : source ++ String.ofList more = String.ofList (p.lead ++ p.target ++ p.gap ++
      '=' :: (textOf xs ++ ';' :: (rest ++ more))) := by
    rw [← String.toList_inj, String.toList_append, hstatement]
    simp
  have hoffset : byteLength (p.lead ++ p.target ++ p.gap ++ '=' :: textOf xs) + 1 + byteLength rest =
      byteLength source.toList := by
    rw [hstatement, byteLength_operator, byteLength_operator, byteLength_mark (c := ';') rfl]
    omega
  have halone : ofScanned p.lead p.target p.gap (textOf xs) = .ok p.assignment := by
    have hparse := parse_semicolon hlayout.lead hlayout.target hlayout.gap hoperator hreads hopened
    have htrivia : checkTrailing _ rest = .ok () := checkTrailing_of hrest.isTrivia
      (byteLength (p.lead ++ p.target ++ p.gap ++ '=' :: textOf xs) + 1)
    rw [← hstatement, String.ofList_toList, h, htrivia] at hparse
    exact hparse.symm
  have hlongerReads := hreads.follow (followsAs_cons ';' rest (rest ++ more))
  rw [hlonger, parse_semicolon hlayout.lead hlayout.target hlayout.gap (stops_follow rfl hoperator)
    hlongerReads hopened, checkTrailing_trivia hrest, hoffset, halone]
  cases checkTrailing (byteLength source.toList) more <;> rfl

/-- On a line of its own, any text is checked from its front on. -/
theorem parse_append_line {source : String} {a : Assignment} (h : Assignment.parse source = .ok a)
    (hend : IsTerminated source a) (line : List Char) :
    Assignment.parse (source ++ String.ofList ('\n' :: line)) =
      (checkTrailing (byteLength source.toList) ('\n' :: line)).map fun _ => a := by
  obtain ⟨rest, hrest⟩ := hend
  obtain ⟨p, -, -, hsource, hlayout, -, -, -, rfl⟩ := reads_of_parse h
  have hending := hlayout.ending
  rw [ending_of_endsStatement hsource hlayout hrest] at hending
  cases hending with
  | semicolon htrivia =>
    exact parse_append_trivia h hrest (htrivia.before_nil.follow (followsAs_lineFeed line))

end PublicPath.Proofs
