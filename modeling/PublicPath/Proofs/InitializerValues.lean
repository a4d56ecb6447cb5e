import PublicPath.Config.Schema
import PublicPath.Proofs.AssignmentGrammar
import PublicPath.Proofs.FollowingText
import PublicPath.Proofs.Replacement

/-!
# Initializers as they are written

An initializer is any text, and it is put in front of the call as it is written. What is read from
the replaced statement depends on this text alone: the call is the value exactly where the
initializer and what follows it are an expression. An initializer that is a value on its own is one
in front of every entry's name.
-/

namespace PublicPath.Proofs
open Text Statement

/-- Behind the operator, an expression goes over the initializer and the bracket of the call. -/
def FormsValue (c : InitializerCall) : Prop :=
  Stops isBlank c.initializer.toList ∧ ∃ xs rest ending,
    textOf xs = ' ' :: (c.initializer.toList ++ rest) ∧
    c.initializer.toList ++ rest ++ ending = c.text.toList ++ [';'] ∧ IsEnding ending ∧
    IsExpression xs ending

/-- The text is read as a value of its own, all of it. -/
def IsValue (v : String) : Prop :=
  ∃ a, Assignment.parse ("x = " ++ v ++ ";") = .ok a ∧ a.value = v

/-! ### What follows a value -/

def valueFollowers : List Char := [';', '(']

structure IsFollower (c : Char) : Prop where
  lineFeed : c ≠ '\n'
  name : isIdentifierPart c = false
  comment (d : Char) (cs : List Char) : ¬ StartsComment (d :: c :: cs)
  comparison (d : Char) : isComparison d (some c) = isComparison d none

lemma isFollower_of_mem {c : Char} (h : c ∈ valueFollowers) : IsFollower c := by
  simp only [valueFollowers, List.mem_cons, List.not_mem_nil, or_false] at h
  have hmark : c ∈ marks := by
    rcases h with rfl | rfl <;> decide
  constructor
  · rcases h with rfl | rfl <;> decide
  · exact not_isIdentifierPart_of_mem_marks c hmark
  · intro d cs
    rcases h with rfl | rfl <;> simp [StartsComment]
  · intro d
    rcases h with rfl | rfl <;> simp [isComparison]

section Follow

variable {c d : Char} {after after' : List Char}

lemma IsFollower.followsAs (hc : IsFollower c) (hd : IsFollower d) :
    FollowsAs (c :: after) (d :: after') := by
  constructor
  · intro h
    exact absurd (stops_cons.mp h) (by simp [hc.lineFeed])
  · intro _
    exact stops_cons.mpr hd.name
  · intro e h
    exact absurd h (hd.comment e after')
  · intro e
    rw [List.head?_cons, List.head?_cons, hc.comparison, hd.comparison]

/-- What ends a statement and what opens a call are behind the same runs of lexemes. -/
lemma reads_follow (hc : IsFollower c) (hd : IsFollower d) {offset : Nat} {s t : Context}
    {xs : List Lexeme} (h : Reads (c :: after) offset s xs t) :
    Reads (d :: after') offset s xs t :=
  h.follow (hc.followsAs hd)

end Follow

/-! ### Values behind an operator with blanks around it -/

section Spaced

variable {target text : List Char}

lemma parse_spaced_eq (ht : IsTarget target) (text : List Char) :
    Assignment.parse (String.ofList (target ++ [' '] ++ '=' :: ' ' :: text)) =
      (scanValue .start (byteLength (target ++ [' ']) + 1) (' ' :: text)).bind
        (ofScanned [] target [' ']) := by
  have hop : Stops (fun c => c == '=' || c == '>') (' ' :: text) := stops_cons.mpr rfl
  have hspace : Blanks [' '] := blanks_singleton rfl
  have hparse := parse_eq_bind blanks_nil ht hspace hop
  rwa [List.nil_append] at hparse

/-- Behind a blank, the value that is read leaves out the blanks around it. -/
lemma expression_of_parse_spaced (ht : IsTarget target) {a : Assignment}
    (h : Assignment.parse (String.ofList (target ++ [' '] ++ '=' :: ' ' :: text)) = .ok a) :
    ∃ xs ys ending, textOf xs = ' ' :: ys ∧ ys ++ ending = text ∧ IsEnding ending ∧
      IsExpression xs ending ∧ a.target = String.ofList target ∧
      a.value = String.ofList (dropEndWhile isBlank (skipBlanks ys)) ∧
      dropEndWhile isBlank (skipBlanks ys) ≠ [] := by
  rw [parse_spaced_eq ht] at h
  obtain ⟨scanned, hscan, h⟩ := bind_eq_ok.mp h
  obtain ⟨xs, t, ending, htext, rfl, hreads, hopened, hending⟩ := reads_of_scanValue hscan
  simp only [ofScanned] at h
  split at h
  · cases h
  rename_i hne
  cases hxs : textOf xs with
  | nil => exact absurd (by rw [hxs]; rfl) hne
  | cons e ys =>
    rw [hxs, List.cons_append, List.cons.injEq] at htext
    obtain ⟨rfl, htext⟩ := htext
    rw [hxs] at h hne
    cases h
    exact ⟨xs, ys, ending, hxs, htext.symm, hending, isExpression_of_reads hreads hopened, rfl, rfl, hne⟩

/-- What a value starts with is in front of the expression, if the text starts with it too. -/
lemma front_of_value {v more ys ending back : List Char} {c : Char} (hc : isBlank c = false)
    (htext : ys ++ ending = v ++ c :: back)
    (hvalue : dropEndWhile isBlank (skipBlanks ys) = v ++ more) :
    Stops isBlank v ∧ ∃ run, Blanks run ∧ ys = v ++ (more ++ run) := by
  obtain ⟨run, hblanks, hrun⟩ := dropEndWhile_append isBlank (skipBlanks ys)
  rw [hvalue] at hrun
  have hfront : Stops isBlank v := by
    have hskip := stops_skipBlanks ys
    rw [← hrun, List.append_assoc] at hskip
    exact hskip.of_append
  have hstops : Stops isBlank ys := by
    have hwhole := hfront.append_cons hc back
    rw [← htext] at hwhole
    exact hwhole.of_append
  have hskip : skipBlanks ys = ys := skipBlanks_run blanks_nil hstops
  exact ⟨hfront, run, hblanks, by rw [← List.append_assoc, hrun, hskip]⟩

/-- Where all of a text in front of the semicolon is the value, it is an expression. -/
lemma expression_of_value (ht : IsTarget target) {v : List Char} {a : Assignment}
    (h : Assignment.parse (String.ofList (target ++ [' '] ++ '=' :: ' ' :: (v ++ [';']))) = .ok a)
    (hv : a.value = String.ofList v) :
    v ≠ [] ∧ Stops isBlank v ∧ ∃ xs, textOf xs = ' ' :: v ∧ IsExpression xs [';'] := by
  obtain ⟨xs, ys, ending, hxs, htext, hending, hexpression, -, hvalue, hne⟩ :=
    expression_of_parse_spaced ht h
  rw [hv, String.ofList_inj] at hvalue
  have hwhole : dropEndWhile isBlank (skipBlanks ys) = v ++ [] := by
    rw [List.append_nil, hvalue]
  obtain ⟨hstops, run, hblanks, rfl⟩ := front_of_value rfl htext hwhole
  rw [List.nil_append] at hxs htext
  rw [List.append_assoc] at htext
  have hlast := List.append_cancel_left htext
  refine ⟨hvalue ▸ hne, hstops, xs, ?_⟩
  cases run with
  | nil =>
    rw [List.nil_append] at hlast
    rw [List.append_nil] at hxs
    rw [hlast] at hexpression
    exact ⟨hxs, hexpression⟩
  | cons d run =>
    have hd := hblanks d List.mem_cons_self
    rw [List.cons_append, List.cons.injEq] at hlast
    rw [hlast.1] at hd
    cases hd

lemma parse_spaced_of_expression (ht : IsTarget target) {xs : List Lexeme} {ys ending : List Char}
    (hxs : textOf xs = ' ' :: ys) (htext : ys ++ ending = text) (hending : IsEnding ending)
    (hexpression : IsExpression xs ending) (hne : dropEndWhile isBlank (skipBlanks ys) ≠ []) :
    ∃ a, Assignment.parse (String.ofList (target ++ [' '] ++ '=' :: ' ' :: text)) = .ok a ∧
      a.target = String.ofList target ∧
      a.value = String.ofList (dropEndWhile isBlank (skipBlanks ys)) := by
  obtain ⟨t, hreads, hopened⟩ := reads_of_isExpression hexpression (byteLength (target ++ [' ']) + 1)
  have hscan := scanValue_of_reads hreads hopened hending
  have hskip : skipBlanks (' ' :: ys) = skipBlanks ys := rfl
  rw [hxs, List.cons_append, htext] at hscan
  rw [parse_spaced_eq ht, hscan]
  change ∃ a, ofScanned [] target [' '] (' ' :: ys) = .ok a ∧ _
  simp only [ofScanned, hskip]
  rw [if_neg hne]
  exact ⟨_, rfl, rfl, rfl⟩

end Spaced

/-! ### Initializers -/

section Call

variable (c : InitializerCall)

lemma assignTo_eq (target : List Char) : c.assignTo (String.ofList target) =
    String.ofList (target ++ [' '] ++ '=' :: ' ' :: (c.text.toList ++ [';'])) := by
  rw [← String.toList_inj]
  simp [InitializerCall.assignTo, String.toList_append]

lemma toList_text_append : c.text.toList ++ [';'] =
    c.initializer.toList ++ '(' :: (quote c.entryName.toList ++ [')', ';']) := by
  rw [toList_text]
  simp

variable {c}

lemma parse_of_formsValue (h : FormsValue c) {target : List Char} (ht : IsTarget target) :
    ∃ b more, Assignment.parse (c.assignTo (String.ofList target)) = .ok b ∧
      b.value = c.initializer ++ more := by
  obtain ⟨hfront, xs, rest, ending, hxs, htext, hending, hexpression⟩ := h
  have hstops : Stops isBlank (c.initializer.toList ++ rest) := by
    have hwhole := hfront.append_cons (rfl : isBlank '(' = false) (quote c.entryName.toList ++ [')', ';'])
    rw [← toList_text_append, ← htext] at hwhole
    exact hwhole.of_append
  have hskip : skipBlanks (c.initializer.toList ++ rest) = c.initializer.toList ++ rest :=
    skipBlanks_run blanks_nil hstops
  have hrest : rest ++ ending = '(' :: (quote c.entryName.toList ++ [')', ';']) := by
    rw [toList_text_append, List.append_assoc] at htext
    exact List.append_cancel_left htext
  cases rest with
  | nil =>
    -- The statement cannot end in front of the bracket of the call.
    rw [List.nil_append] at hrest
    rw [hrest] at hending
    cases hending
  | cons d rest =>
    rw [List.cons_append, List.cons.injEq] at hrest
    obtain ⟨rfl, -⟩ := hrest
    have hvalue : dropEndWhile isBlank (skipBlanks (c.initializer.toList ++ '(' :: rest)) =
        c.initializer.toList ++ '(' :: dropEndWhile isBlank rest := by
      rw [hskip, dropEndWhile_append_cons rfl]
    obtain ⟨b, hparse, -, hb⟩ := parse_spaced_of_expression ht hxs htext hending hexpression
      (by rw [hvalue]; simp)
    refine ⟨b, String.ofList ('(' :: dropEndWhile isBlank rest), ?_, ?_⟩
    · rw [assignTo_eq, hparse]
    · rw [hb, hvalue, String.ofList_append, String.ofList_toList]

lemma formsValue_of_parse {target : List Char} (ht : IsTarget target) {b : Assignment}
    (hb : Assignment.parse (c.assignTo (String.ofList target)) = .ok b) {more : String}
    (hmore : b.value = c.initializer ++ more) : FormsValue c := by
  rw [assignTo_eq] at hb
  obtain ⟨xs, ys, ending, hxs, htext, hending, hexpression, -, hvalue, -⟩ :=
    expression_of_parse_spaced ht hb
  have hfront : dropEndWhile isBlank (skipBlanks ys) = c.initializer.toList ++ more.toList := by
    rw [← String.ofList_inj, ← hvalue, hmore, String.ofList_append, String.ofList_toList,
      String.ofList_toList]
  obtain ⟨hstops, run, -, rfl⟩ := front_of_value rfl (htext.trans (toList_text_append c)) hfront
  exact ⟨hstops, xs, more.toList ++ run, ending, hxs, htext, hending, hexpression⟩

lemma expression_of_isValue {v : String} (h : IsValue v) :
    Stops isBlank v.toList ∧ ∃ xs, textOf xs = ' ' :: v.toList ∧ IsExpression xs [';'] := by
  obtain ⟨a, hparse, hv⟩ := h
  have hname : IsIdentifier ['x'] := .mk rfl (by simp)
  have hsource : "x = " ++ v ++ ";" =
      String.ofList (['x'] ++ [' '] ++ '=' :: ' ' :: (v.toList ++ [';'])) := by
    rw [← String.toList_inj]
    simp [String.toList_append]
  rw [hsource] at hparse
  obtain ⟨-, hstops, hexpression⟩ := expression_of_value hname.isTarget hparse (by simpa using hv)
  exact ⟨hstops, hexpression⟩

/-- An initializer that is a value on its own forms one in front of every entry's name. -/
lemma formsValue_of_isValue (h : IsValue c.initializer) : FormsValue c := by
  obtain ⟨hfront, xs, hxs, hexpression⟩ := expression_of_isValue h
  obtain ⟨t, hreads, hopened⟩ := reads_of_isExpression hexpression 0
  have hquote : Passes (· = '(') (quote c.entryName.toList) (fun _ => True) EndsOperand :=
    passes_quoted rfl (quotedBody_flatMap_quoteEscape _)
  have hgroup : Passes (fun _ => True) ('(' :: (quote c.entryName.toList ++ [')']))
      (fun _ => True) (· = ')') := passes_group rfl rfl hquote (fun _ => trivial)
  -- The call goes on where the value stopped, since a bracket ends it just as a semicolon does.
  obtain ⟨u, ⟨zs, hzs, hcall⟩, hu, -⟩ :=
    hgroup [';'] (0 + byteLength (textOf xs)) t trivial trivial
  have hfollow : Reads (textOf zs ++ [';']) 0 .start xs t := by
    rw [hzs]
    exact reads_follow (isFollower_of_mem (by decide)) (isFollower_of_mem (by decide)) hreads
  refine ⟨hfront, xs ++ zs, textOf zs, [';'], ?_, ?_, .semicolon .nil, ?_⟩
  · rw [textOf_append, hxs, List.cons_append]
  · rw [hzs, toList_text]
  · exact isExpression_of_reads (hfollow.append hcall) (hu.trans hopened)

end Call

/-- A replaced statement keeps its target wherever it is read again. It is read with a value that
the initializer is in front of exactly if the initializer forms a value, and every initializer that
is a value on its own does. -/
theorem parse_replaced_iff (c : InitializerCall) {code : String} {a : Assignment}
    (h : Assignment.parse code = .ok a) :
    ∃ out, c.replace code = .ok out ∧
      (∀ b, Assignment.parse out = .ok b → b.target = a.target) ∧
      ((∃ b more, Assignment.parse out = .ok b ∧ b.value = c.initializer ++ more) ↔ FormsValue c) ∧
      (IsValue c.initializer → FormsValue c) := by
  obtain ⟨p, xs, t, -, hlayout, -, -, -, rfl⟩ := reads_of_parse h
  refine ⟨c.assignTo (String.ofList p.target), ?_, ?_, ?_, formsValue_of_isValue⟩
  · rw [InitializerCall.replace, h]
    rfl
  · intro b hb
    rw [assignTo_eq] at hb
    obtain ⟨-, -, -, -, -, -, -, htarget, -⟩ := expression_of_parse_spaced hlayout.target hb
    exact htarget
  · constructor
    · rintro ⟨b, more, hb, hmore⟩
      exact formsValue_of_parse hlayout.target hb hmore
    · intro hforms
      exact parse_of_formsValue hforms hlayout.target

/-- An arrow function with a semicolon in a literal, and a quote in the name of the entry. -/
theorem parse_replaced_iff_arrow :
    Assignment.parse "r.p = \"/\";" = .ok ⟨"r.p", "\"/\"", ⟨0, 3⟩, ⟨6, 9⟩⟩ ∧
      IsValue "(e => f(e, ';'))" ∧
      ∃ out, InitializerCall.replace ⟨"(e => f(e, ';'))", "it's"⟩ "r.p = \"/\";" = .ok out ∧
        (∀ b, Assignment.parse out = .ok b → b.target = "r.p") ∧
        ((∃ b more, Assignment.parse out = .ok b ∧ b.value = "(e => f(e, ';'))" ++ more) ↔
          FormsValue ⟨"(e => f(e, ';'))", "it's"⟩) ∧
        (IsValue "(e => f(e, ';'))" → FormsValue ⟨"(e => f(e, ';'))", "it's"⟩) := by
  have hparse : Assignment.parse "r.p = \"/\";" = .ok ⟨"r.p", "\"/\"", ⟨0, 3⟩, ⟨6, 9⟩⟩ := by
    decide +kernel
  have hvalue : Assignment.parse ("x = " ++ "(e => f(e, ';'))" ++ ";") =
      .ok ⟨"x", "(e => f(e, ';'))", ⟨0, 1⟩, ⟨4, 20⟩⟩ := by
    decide +kernel
  exact ⟨hparse, ⟨_, hvalue, rfl⟩, parse_replaced_iff ⟨"(e => f(e, ';'))", "it's"⟩ hparse⟩

/-- Options that fit the schema, and a replaced statement that is none. -/
theorem replace_malformed :
    InitializerCall.ofJson (.object [("entryName", .string "checkout"),
        ("initializer", .string "setPath(")]) = .ok ⟨"setPath(", "checkout"⟩ ∧
      Assignment.parse "__webpack_require__.p = \"/\";" =
        .ok ⟨"__webpack_require__.p", "\"/\"", ⟨0, 21⟩, ⟨24, 27⟩⟩ ∧
      InitializerCall.replace ⟨"setPath(", "checkout"⟩ "__webpack_require__.p = \"/\";" =
        .ok "__webpack_require__.p = setPath(('checkout');" ∧
      Assignment.parse "__webpack_require__.p = setPath(('checkout');" =
        .error (.unbalancedDelimiter '(' 31) := by
  refine ⟨?_, ?_, ?_, ?_⟩ <;> decide +kernel

end PublicPath.Proofs
