import PublicPath.Build.InitializerCall
import PublicPath.Proofs.PassingText

/-!
# Replaced statements

A replaced statement is an assignment again, to the same target and of the call that was put in,
whatever the name of the entry. So a later replacement makes an earlier one forgotten.
-/

namespace PublicPath.Proofs
open Text Statement

lemma QuotedBody.append {q : Char} {front back : List Char} (hf : QuotedBody q front)
    (hb : QuotedBody q back) : QuotedBody q (front ++ back) := by
  induction hf with
  | nil => exact hb
  | escape c _ ih => exact .escape c ih
  | plain hq hs hn _ ih => exact .plain hq hs hn ih

/-- Characters that neither end a literal nor escape anything stand in it as they are. -/
lemma quotedBody_of_forall {q : Char} {cs : List Char}
    (h : ∀ c ∈ cs, c ≠ q ∧ c ≠ '\\' ∧ c ≠ '\n') : QuotedBody q cs := by
  induction cs with
  | nil => exact .nil
  | cons c cs ih =>
    obtain ⟨⟨hq, hs, hn⟩, hcs⟩ := List.forall_mem_cons.mp h
    exact .plain hq hs (fun hc => absurd hc hn) (ih hcs)

lemma quotedBody_quoteEscape (c : Char) : QuotedBody '\'' (quoteEscape c) := by
  unfold quoteEscape
  split
  · exact .escape '\\' .nil
  · exact .escape '\'' .nil
  · exact .escape 'n' .nil
  · exact .escape 'r' .nil
  · exact .escape 'u' (quotedBody_of_forall (by simp))
  · exact .escape 'u' (quotedBody_of_forall (by simp))
  · rename_i hs hq hn _ _ _
    exact quotedBody_of_forall (List.forall_mem_singleton.mpr ⟨hq, hs, hn⟩)

/-- The escaped text of an entry's name never ends its own literal. -/
theorem quotedBody_flatMap_quoteEscape (cs : List Char) :
    QuotedBody '\'' (cs.flatMap quoteEscape) := by
  induction cs with
  | nil => exact .nil
  | cons c cs ih =>
    rw [List.flatMap_cons]
    exact (quotedBody_quoteEscape c).append ih

lemma replace_of_parse {code : String} {a : Assignment} (h : Assignment.parse code = .ok a)
    (c : InitializerCall) : c.replace code = .ok (c.assignTo a.target) := by
  rw [InitializerCall.replace, h]
  rfl

section Call

variable (c : InitializerCall)

lemma toList_text : c.text.toList =
    c.initializer.toList ++ '(' :: (quote c.entryName.toList ++ [')']) := by
  simp [InitializerCall.text, singleQuoted, String.toList_append]

lemma passes_call (h : IsTarget c.initializer.toList) {pre : Char → Prop}
    {follow : List Char → Prop} : Passes pre c.text.toList follow (· = ')') := by
  have hquote : Passes (· = '(') (quote c.entryName.toList) (fun _ => True) EndsOperand :=
    passes_quoted rfl (quotedBody_flatMap_quoteEscape _)
  rw [toList_text]
  exact (passes_target h).seq (passes_group rfl rfl hquote (fun _ => trivial))

lemma isTrimmed_text (h : IsTarget c.initializer.toList) : IsTrimmed c.text.toList := by
  rw [toList_text]
  constructor
  · simp
  · exact h.front _
  · simp only [List.reverse_append, List.reverse_cons, List.append_assoc]
    exact stops_cons.mpr rfl

/-- The parts of the statement that assigns a call to a target. -/
def callParts (target : List Char) : Parts :=
  simpleParts [] target [' '] [' '] c.text.toList []

lemma source_callParts (target : List Char) :
    String.ofList (callParts c target).source = c.assignTo (String.ofList target) := by
  rw [← String.toList_inj]
  simp [callParts, simpleParts, Parts.source, Parts.expression, InitializerCall.assignTo,
    String.toList_append]

/-- A call that is assigned to a target is read as this assignment. -/
theorem parse_assignTo (h : IsTarget c.initializer.toList) {target : List Char}
    (htarget : IsTarget target) : Assignment.parse (c.assignTo (String.ofList target)) =
      .ok (callParts c target).assignment := by
  have hspace : Blanks [' '] := blanks_singleton rfl
  have hpasses : Passes WantsOperand c.text.toList (fun _ => True) (· = ')') := passes_call c h
  rw [← source_callParts]
  exact parse_simpleParts blanks_nil hspace hspace blanks_nil htarget (isTrimmed_text c h) hpasses
    trivial

/-- A call that is assigned to the target of an assignment is an assignment to this target. -/
lemma parse_assignTo_target (h : IsTarget c.initializer.toList) {code : String} {a : Assignment}
    (ha : Assignment.parse code = .ok a) :
    ∃ b, Assignment.parse (c.assignTo a.target) = .ok b ∧ b.target = a.target := by
  obtain ⟨p, xs, t, -, hlayout, -, -, -, rfl⟩ := reads_of_parse ha
  exact ⟨_, parse_assignTo c h hlayout.target, rfl⟩

end Call

/-- A replaced statement has the target of the statement before and the call as its value, and
replacing it once more gives what replacing the statement itself gives. -/
theorem replace_absorbs {code : String} {a : Assignment} (h : Assignment.parse code = .ok a)
    (c₁ c₂ : InitializerCall) (hinit : IsTarget c₁.initializer.toList) :
    ∃ out b, c₁.replace code = .ok out ∧ Assignment.parse out = .ok b ∧ b.target = a.target ∧
      b.value = c₁.initializer ++ "(" ++ singleQuoted c₁.entryName ++ ")" ∧
      c₂.replace out = c₂.replace code ∧ c₁.replace out = .ok out := by
  obtain ⟨p, xs, t, -, hlayout, -, -, -, rfl⟩ := reads_of_parse h
  have hparse := parse_assignTo c₁ hinit hlayout.target
  have hreplace : ∀ c : InitializerCall,
      c.replace code = .ok (c.assignTo (String.ofList p.target)) := by
    intro c
    rw [InitializerCall.replace, h]
    rfl
  have hagain : ∀ c : InitializerCall, c.replace (c₁.assignTo (String.ofList p.target)) =
      .ok (c.assignTo (String.ofList p.target)) := by
    intro c
    rw [InitializerCall.replace, hparse]
    rfl
  refine ⟨_, _, hreplace c₁, hparse, rfl, ?_, ?_, hagain c₁⟩
  · change String.ofList c₁.text.toList = _
    rw [String.ofList_toList]
    simp only [InitializerCall.text, String.append_assoc]
  · rw [hagain, hreplace]

/-- Blanks and a bracket in the target, an equals sign and a semicolon in the value, and a quote in
the name of the entry. -/
theorem replace_absorbs_indexed :
    Assignment.parse "self [ \"a]\" ] . p = f(/[=;]/, b); // x" =
        .ok ⟨"self [ \"a]\" ] . p", "f(/[=;]/, b)", ⟨0, 17⟩, ⟨20, 32⟩⟩ ∧
      IsTarget "app['x]'].set".toList ∧
      ∃ out b, InitializerCall.replace ⟨"app['x]'].set", "it's\n"⟩
          "self [ \"a]\" ] . p = f(/[=;]/, b); // x" = .ok out ∧
        Assignment.parse out = .ok b ∧ b.target = "self [ \"a]\" ] . p" ∧
        b.value = "app['x]'].set" ++ "(" ++ singleQuoted "it's\n" ++ ")" ∧
        InitializerCall.replace ⟨"g", "e"⟩ out =
          InitializerCall.replace ⟨"g", "e"⟩ "self [ \"a]\" ] . p = f(/[=;]/, b); // x" ∧
        InitializerCall.replace ⟨"app['x]'].set", "it's\n"⟩ out = .ok out := by
  have hparse : Assignment.parse "self [ \"a]\" ] . p = f(/[=;]/, b); // x" =
      .ok ⟨"self [ \"a]\" ] . p", "f(/[=;]/, b)", ⟨0, 17⟩, ⟨20, 32⟩⟩ := by
    decide +kernel
  have hscan : scanTarget 0 "app['x]'].set".toList = .ok ("app['x]'].set".toList, []) := by
    decide +kernel
  have htarget := (isTarget_of_scanTarget hscan).1
  exact ⟨hparse, htarget, replace_absorbs hparse _ _ htarget⟩

end PublicPath.Proofs
