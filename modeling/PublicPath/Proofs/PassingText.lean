import PublicPath.Proofs.AssignmentScanning

/-!
# Texts that a scan passes over

`Passes pre cs follow post` is a triple about the one character that a scan remembers: where `pre`
holds of it and `follow` of the text behind, the scan passes over `cs`, leaves the brackets that are
open as they are, and `post` holds of the character it remembers then. Names, literals, groups in
brackets and whole targets are passed over at every depth.
-/

namespace PublicPath.Proofs
open Text Statement

/-- A text whose lexemes lead from one context to another. -/
def ReadsText (after : List Char) (offset : Nat) (s : Context) (cs : List Char) (t : Context) :
    Prop :=
  ∃ xs, textOf xs = cs ∧ Reads after offset s xs t

lemma readsText_nil (after : List Char) (offset : Nat) (s : Context) :
    ReadsText after offset s [] s :=
  ⟨[], rfl, .nil offset s⟩

lemma readsText_lexeme {after : List Char} {offset : Nat} {s t : Context} {x : Lexeme}
    (hx : IsLexeme s.significant after x) (hstep : ContextStep s offset after.head? x t) :
    ReadsText after offset s x.text t :=
  ⟨[x], by simp, .cons hx hstep (.nil _ _)⟩

lemma ReadsText.append {after cs ds : List Char} {offset : Nat} {s t u : Context}
    (hc : ReadsText (ds ++ after) offset s cs t)
    (hd : ReadsText after (offset + byteLength cs) t ds u) :
    ReadsText after offset s (cs ++ ds) u := by
  obtain ⟨xs, rfl, hx⟩ := hc
  obtain ⟨ys, rfl, hy⟩ := hd
  exact ⟨xs ++ ys, textOf_append xs ys, hx.append hy⟩

/-- See the head of this file. -/
def Passes (pre : Char → Prop) (cs : List Char) (follow : List Char → Prop) (post : Char → Prop) :
    Prop :=
  ∀ (after : List Char) (offset : Nat) (s : Context), pre s.significant → follow after →
    ∃ t, ReadsText after offset s cs t ∧ t.opened = s.opened ∧ post t.significant

/-- A slash behind the character is a division. -/
def EndsOperand (c : Char) : Prop := startsOperand c = false

/-- A slash behind the character starts a regular expression. -/
def WantsOperand (c : Char) : Prop := startsOperand c = true

section Triples

variable {pre mid post : Char → Prop} {cs ds : List Char} {follow follow' : List Char → Prop}

lemma passes_nil : Passes pre [] follow pre := by
  intro after offset s hs _
  exact ⟨s, readsText_nil after offset s, rfl, hs⟩

lemma Passes.append (hc : Passes pre cs follow mid) (hd : Passes mid ds follow' post)
    (h : ∀ after, follow' after → follow (ds ++ after)) : Passes pre (cs ++ ds) follow' post := by
  intro after offset s hs hafter
  obtain ⟨t, hct, hto, ht⟩ := hc _ offset s hs (h after hafter)
  obtain ⟨u, hdu, huo, hu⟩ := hd _ (offset + byteLength cs) t ht hafter
  exact ⟨u, hct.append hdu, huo.trans hto, hu⟩

/-- Where it does not matter what follows the first text. -/
lemma Passes.seq (hc : Passes pre cs (fun _ => True) mid) (hd : Passes mid ds follow post) :
    Passes pre (cs ++ ds) follow post :=
  hc.append hd (fun _ _ => trivial)

lemma Passes.mono {pre' post' : Char → Prop} (h : Passes pre cs follow post)
    (hpre : ∀ c, pre' c → pre c) (hfollow : ∀ after, follow' after → follow after)
    (hpost : ∀ c, post c → post' c) : Passes pre' cs follow' post' := by
  intro after offset s hs hafter
  obtain ⟨t, hct, hto, ht⟩ := h _ offset s (hpre _ hs) (hfollow _ hafter)
  exact ⟨t, hct, hto, hpost _ ht⟩

lemma passes_blanks (h : Blanks cs) : Passes pre cs follow pre := by
  induction cs with
  | nil => exact passes_nil
  | cons c cs ih =>
    intro after offset s hs hafter
    have hc : ReadsText (cs ++ after) offset s [c] { s with previous := c } :=
      readsText_lexeme (.blank (h c List.mem_cons_self)) (.blank c)
    obtain ⟨t, hct, hto, ht⟩ := ih (fun d hd => h d (List.mem_cons_of_mem c hd)) after
      (offset + byteLength [c]) { s with previous := c } hs hafter
    exact ⟨t, hc.append hct, hto, ht⟩

/-- A character with no meaning to a scan but its being there. -/
structure IsPlain (c : Char) : Prop where
  blank : isBlank c = false
  quote : isQuote c = false
  slash : c ≠ '/'
  opener : isOpener c = false
  closer : openerOf c = none
  semicolon : c ≠ ';'
  equals : c ≠ '='

lemma IsPlain.isLexeme {c : Char} (h : IsPlain c) (last : Char) (after : List Char) :
    IsLexeme last after (.mark c) :=
  .mark h.blank h.quote (not_startsComment_of_ne h.slash after) (fun hc => absurd hc h.slash)

lemma IsPlain.readsText {c : Char} (h : IsPlain c) (after : List Char) (offset : Nat)
    (s : Context) : ReadsText after offset s [c] ⟨s.opened, c, c⟩ :=
  readsText_lexeme (h.isLexeme _ _)
    (.plain h.opener h.closer (fun hc => absurd hc h.semicolon) (fun hc => absurd hc h.equals))

lemma passes_plain {c : Char} (h : IsPlain c) : Passes pre [c] follow (· = c) := by
  intro after offset s _ _
  exact ⟨⟨s.opened, c, c⟩, h.readsText after offset s, rfl, rfl⟩

/-- Marks that are plain wherever they stand. -/
def plainMarks : List Char := ['.', ',', '?', ':', '+', '-', '*', '!', '<', '>', '&', '|']

lemma isPlain_of_mem_plainMarks {c : Char} (h : c ∈ plainMarks) : IsPlain c := by
  simp only [plainMarks, List.mem_cons, List.not_mem_nil, or_false] at h
  rcases h with rfl | rfl | rfl | rfl | rfl | rfl | rfl | rfl | rfl | rfl | rfl | rfl <;>
    constructor <;> decide

lemma isPlain_of_isIdentifierPart {c : Char} (h : isIdentifierPart c = true) : IsPlain c := by
  have hne : ∀ d ∈ marks, c ≠ d := fun d hd => ne_of_isIdentifierPart h hd
  constructor
  · exact not_isBlank_of_isIdentifierPart h
  · exact not_isQuote_of_isIdentifierPart h
  · exact hne _ (by decide)
  · simp [isOpener, hne '(' (by decide), hne '[' (by decide), hne '\x7b' (by decide)]
  · simp [openerOf, hne ')' (by decide), hne ']' (by decide), hne '\x7d' (by decide)]
  · exact hne _ (by decide)
  · exact hne _ (by decide)

lemma endsOperand_of_isIdentifierPart {c : Char} (h : isIdentifierPart c = true) :
    EndsOperand c := by
  by_contra hc
  rw [EndsOperand, Bool.not_eq_false] at hc
  have hall : "=(,[!&|?:;+-*/%<>~^".toList.all (fun d => marks.contains d) = true := by
    decide
  have hm : c ∈ marks := by
    simp only [startsOperand, Bool.or_eq_true, List.contains_iff_mem, beq_iff_eq] at hc
    rcases hc with (hc | rfl) | rfl
    · exact List.contains_iff_mem.mp (List.all_eq_true.mp hall c hc)
    · decide
    · decide
  rw [not_isIdentifierPart_of_mem_marks c hm] at h
  cases h

lemma passes_run (hpre : ∀ c, pre c → EndsOperand c) (h : ∀ c ∈ cs, isIdentifierPart c = true) :
    Passes pre cs follow EndsOperand := by
  induction cs generalizing pre with
  | nil => exact passes_nil.mono (fun _ h => h) (fun _ h => h) hpre
  | cons c cs ih =>
    have hc := h c List.mem_cons_self
    refine (passes_plain (isPlain_of_isIdentifierPart hc)).seq
      (ih ?_ (fun d hd => h d (List.mem_cons_of_mem c hd)))
    rintro d rfl
    exact endsOperand_of_isIdentifierPart hc

lemma passes_name (hne : cs ≠ []) (h : ∀ c ∈ cs, isIdentifierPart c = true) :
    Passes pre cs follow EndsOperand := by
  obtain ⟨c, cs, rfl⟩ := List.exists_cons_of_ne_nil hne
  have hc := h c List.mem_cons_self
  refine (passes_plain (isPlain_of_isIdentifierPart hc)).seq
    (passes_run ?_ (fun d hd => h d (List.mem_cons_of_mem c hd)))
  rintro d rfl
  exact endsOperand_of_isIdentifierPart hc

lemma passes_quoted {q : Char} {body : List Char} (hq : isQuote q = true) (h : QuotedBody q body) :
    Passes pre (q :: (body ++ [q])) follow EndsOperand := by
  intro after offset s _ _
  refine ⟨{ s with previous := q, significant := q }, ?_, rfl, ?_⟩
  · exact readsText_lexeme (.quoted hq h) (.quoted q _)
  · simp only [isQuote, Bool.or_eq_true, beq_iff_eq] at hq
    rcases hq with (rfl | rfl) | rfl <;> rfl

/-- A text between brackets is passed over if its inside is. -/
lemma passes_group {opener closer : Char} (ho : isOpener opener = true)
    (hc : openerOf closer = some opener) (h : Passes (· = opener) cs follow mid)
    (hfollow : ∀ after, follow (closer :: after)) :
    Passes pre (opener :: (cs ++ [closer])) follow' (· = closer) := by
  intro after offset s _ _
  have hopen : IsLexeme s.significant (cs ++ closer :: after) (.mark opener) := by
    simp only [isOpener, Bool.or_eq_true, beq_iff_eq] at ho
    rcases ho with (rfl | rfl) | rfl <;>
      exact .mark rfl rfl (not_startsComment_of_ne (by decide) _) (fun h => absurd h (by decide))
  obtain ⟨t, hct, hto, ht⟩ := h _ (offset + byteLength [opener])
    ⟨(opener, offset) :: s.opened, opener, opener⟩ rfl (hfollow after)
  have hclose : IsLexeme t.significant after (.mark closer) := by
    unfold openerOf at hc
    split_ifs at hc <;> subst closer <;>
      exact .mark rfl rfl (not_startsComment_of_ne (by decide) _) (fun h => absurd h (by decide))
  refine ⟨⟨s.opened, closer, closer⟩, ?_, rfl, rfl⟩
  have hlast : ReadsText after (offset + byteLength [opener] + byteLength cs) t [closer]
      ⟨s.opened, closer, closer⟩ := readsText_lexeme hclose (.closes hc hto)
  have hfirst : ReadsText (cs ++ [closer] ++ after) offset s [opener]
      ⟨(opener, offset) :: s.opened, opener, opener⟩ := by
    rw [List.append_assoc]
    exact readsText_lexeme hopen (.opens ho)
  exact hfirst.append (ReadsText.append hct hlast)

end Triples

/-- An assignment is read where its value is passed over from behind the operator. -/
theorem parse_of_passes {p : Parts} (h : p.Layout) {follow : List Char → Prop} {post : Char → Prop}
    (hp : Passes WantsOperand p.value follow post) (hfollow : follow (p.behind ++ p.ending)) :
    Assignment.parse (String.ofList p.source) = .ok p.assignment := by
  have hvalue : Passes WantsOperand (p.before ++ p.value) follow post :=
    (passes_blanks h.before).seq hp
  have hexpression : Passes WantsOperand p.expression (· = p.ending) post := by
    refine hvalue.append (passes_blanks h.behind) ?_
    rintro after rfl
    exact hfollow
  obtain ⟨t, ⟨xs, hxs, hreads⟩, ht, -⟩ := hexpression p.ending p.valueOffset .start rfl rfl
  exact parse_of_reads h hxs hreads ht

/-- Other code behind the semicolon of an assignment is reported where it starts. -/
theorem parse_trailingCode {lead target gap e w rest : List Char} {c : Char} (hlead : Blanks lead)
    (ht : IsTarget target) (hgap : Blanks gap)
    (hop : Stops (fun c => c == '=' || c == '>') (e ++ ';' :: (w ++ c :: rest)))
    {follow : List Char → Prop} {post : Char → Prop} (hp : Passes WantsOperand e follow post)
    (hfollow : follow (';' :: (w ++ c :: rest))) (hw : Blanks w) (hc : isBlank c = false)
    (hs : ¬ StartsComment (c :: rest)) :
    Assignment.parse (String.ofList (lead ++ target ++ gap ++ '=' :: (e ++ ';' :: (w ++ c :: rest)))) =
      .error (.trailingCode (byteLength (lead ++ target ++ gap ++ '=' :: (e ++ ';' :: w)))) := by
  obtain ⟨t, ⟨xs, rfl, hreads⟩, hopened, -⟩ := hp (';' :: (w ++ c :: rest))
    (byteLength (lead ++ target ++ gap) + 1) .start rfl hfollow
  refine parse_of_scanError hlead ht hgap hop hreads ?_
  rw [scanValue_semicolon hopened, checkTrailing_code hw hc hs]
  simp [Except.map, byteLength_mark (c := ';') rfl, Nat.add_assoc]

lemma parse_simpleParts {w₀ w₁ w₂ w₃ target v : List Char} (h₀ : Blanks w₀) (h₁ : Blanks w₁)
    (h₂ : Blanks w₂) (h₃ : Blanks w₃) (ht : IsTarget target) (hv : IsTrimmed v)
    {follow : List Char → Prop} {post : Char → Prop} (hp : Passes WantsOperand v follow post)
    (hfollow : follow (';' :: w₃)) :
    Assignment.parse (String.ofList (simpleParts w₀ target w₁ w₂ v w₃).source) =
      .ok (simpleParts w₀ target w₁ w₂ v w₃).assignment :=
  parse_of_passes (layout_simpleParts h₀ h₁ h₂ h₃ ht hv) hp hfollow

/-! ### Targets inside an expression -/

section Targets

variable {pre : Char → Prop} {follow : List Char → Prop}

lemma passes_identifier {name : List Char} (h : IsIdentifier name) :
    Passes pre name follow EndsOperand := by
  refine passes_name ?_ h.part
  cases h with
  | mk hc hcs => simp

lemma passes_key {key : List Char} (h : IsKey key) : Passes pre key follow EndsOperand := by
  cases h with
  | @quoted q body hq h =>
    refine passes_quoted ?_ h
    rcases hq with rfl | rfl <;> rfl
  | digits hne h => exact passes_name hne fun d hd => isIdentifierPart_of_isDigit (h d hd)

lemma passes_access {access : List Char} (h : IsAccess access) :
    Passes EndsOperand access follow EndsOperand := by
  cases h with
  | @member before inside name hb hi h =>
    have hdot : IsPlain '.' := isPlain_of_mem_plainMarks (by decide)
    have hname : Passes (· = '.') (inside ++ name) follow EndsOperand :=
      (passes_blanks hi).seq (passes_identifier h)
    exact (passes_blanks hb).seq ((passes_plain hdot).seq hname)
  | @index before front key back hb hf h hk =>
    have hkey : Passes (· = '[') (front ++ key) (fun _ => True) EndsOperand :=
      (passes_blanks hf).seq (passes_key h)
    have hinside : Passes (· = '[') (front ++ key ++ back) (fun _ => True) EndsOperand :=
      hkey.seq (passes_blanks hk)
    have hgroup : Passes EndsOperand ('[' :: (front ++ key ++ back ++ [']'])) follow (· = ']') :=
      passes_group rfl rfl hinside (fun _ => trivial)
    refine (passes_blanks hb).seq (hgroup.mono (fun _ h => h) (fun _ h => h) ?_)
    rintro c rfl
    rfl

lemma passes_accesses {accesses : List (List Char)} (h : ∀ a ∈ accesses, IsAccess a) :
    Passes EndsOperand accesses.flatten follow EndsOperand := by
  induction accesses with
  | nil => exact passes_nil
  | cons a accesses ih =>
    rw [List.flatten_cons]
    exact (passes_access (h a List.mem_cons_self)).seq
      (ih fun b hb => h b (List.mem_cons_of_mem a hb))

/-- A target is passed over wherever it stands, and a slash behind it is a division. -/
theorem passes_target {target : List Char} (h : IsTarget target) :
    Passes pre target follow EndsOperand := by
  cases h with
  | mk hname h =>
    exact (passes_identifier hname).seq (passes_accesses h)

end Targets

end PublicPath.Proofs
