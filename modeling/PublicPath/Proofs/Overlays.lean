import Mathlib.Tactic.Common
import PublicPath.Config.Project

/-!
# Overlays

What the command line gives stands over what the project has. The options of the call are laid over
one another by their names and checked again, which fails exactly if one of them is left open, and
then the project keeps the call that it had.
-/

namespace PublicPath.Proofs

/-- Later overrides over earlier ones. -/
def combined (earlier later : Overrides) : Overrides :=
  ⟨later.initializer <|> earlier.initializer, later.entryName <|> earlier.entryName,
    later.outDir <|> earlier.outDir, later.pretty <|> earlier.pretty⟩

/-- The overrides have no option, or the project has a call, or the overrides have both options. -/
def Completes (p : ProjectConfig) (o : Overrides) : Prop :=
  (o.initializer = none ∧ o.entryName = none) ∨ p.call ≠ none ∨
    (o.initializer ≠ none ∧ o.entryName ≠ none)

/-- The option that is missing where the other one is given alone. -/
inductive LeavesOpen (p : ProjectConfig) (o : Overrides) : String → Prop
  | initializer (hcall : p.call = none) (hi : o.initializer = none) (he : o.entryName ≠ none) :
      LeavesOpen p o "initializer"
  | entryName (hcall : p.call = none) (hi : o.initializer ≠ none) (he : o.entryName = none) :
      LeavesOpen p o "entryName"

/-- Every value of the second project is that of the overrides, or that of the first project where
the overrides have none. -/
structure OverlaidBy (p : ProjectConfig) (o : Overrides) (q : ProjectConfig) : Prop where
  outDir : q.outDir = (o.outDir <|> p.outDir)
  pretty : q.pretty = o.pretty.getD p.pretty
  initializer : q.call.map (·.initializer) = (o.initializer <|> p.call.map (·.initializer))
  entryName : q.call.map (·.entryName) = (o.entryName <|> p.call.map (·.entryName))
  absent : q.call = none ↔ p.call = none ∧ o.initializer = none ∧ o.entryName = none

/-- What becomes of a project under some overrides. -/
inductive MergesTo (p : ProjectConfig) (o : Overrides) :
    ProjectConfig × Except (List SchemaViolation) Unit → Prop
  | overlaid {q : ProjectConfig} (h : Completes p o) (hq : OverlaidBy p o q) :
      MergesTo p o (q, .ok ())
  | refused {q : ProjectConfig} {name : String} (h : LeavesOpen p o name) (hcall : q.call = p.call)
      (houtDir : q.outDir = (o.outDir <|> p.outDir)) (hpretty : q.pretty = o.pretty.getD p.pretty) :
      MergesTo p o (q, .error [.missingField name])

/-- The call of two options, if both are there. -/
def callOf (initializer entryName : Option String) : Option InitializerCall :=
  match initializer, entryName with
  | some initializer, some entryName => some ⟨initializer, entryName⟩
  | _, _ => none

/-- The call of some options under some overrides, name by name. -/
def overlaidCall (call : Option InitializerCall) (o : Overrides) : Option InitializerCall :=
  callOf (o.initializer <|> call.map (·.initializer)) (o.entryName <|> call.map (·.entryName))

/-! ### Options name by name -/

section

variable {i e : Option String}

lemma orElse_assoc {α : Type} (a b c : Option α) : ((a <|> b) <|> c) = (a <|> (b <|> c)) := by
  simp [Option.or_assoc]

lemma orElse_map_eq_none_iff {a : Option String} {call : Option InitializerCall}
    {f : InitializerCall → String} : (a <|> call.map f) = none ↔ a = none ∧ call = none := by
  simp

lemma callOf_map (call : Option InitializerCall) :
    callOf (call.map (·.initializer)) (call.map (·.entryName)) = call := by
  cases call <;> rfl

lemma callOf_eq_none_iff : callOf i e = none ↔ i = none ∨ e = none := by
  cases i <;> cases e <;> simp [callOf]

/-- Two options of which none stands alone are those of their call. -/
lemma map_callOf (h : i = none ↔ e = none) :
    (callOf i e).map (·.initializer) = i ∧ (callOf i e).map (·.entryName) = e := by
  cases i with
  | none =>
    obtain rfl := h.mp rfl
    exact ⟨rfl, rfl⟩
  | some initializer =>
    obtain ⟨entryName, rfl⟩ := Option.ne_none_iff_exists'.mp (mt h.mpr (by simp))
    exact ⟨rfl, rfl⟩

end

/-! ### One overlay -/

section

variable {p : ProjectConfig} {o : Overrides} {name : String}

/-- The overrides complete the project where no option stands alone under them. -/
lemma completes_iff : Completes p o ↔
    ((o.initializer <|> p.call.map (·.initializer)) = none ↔
      (o.entryName <|> p.call.map (·.entryName)) = none) := by
  rw [orElse_map_eq_none_iff, orElse_map_eq_none_iff, Completes]
  tauto

lemma overlaidBy_overlaidCall (h : Completes p o) :
    OverlaidBy p o ⟨overlaidCall p.call o, o.outDir <|> p.outDir, o.pretty.getD p.pretty⟩ := by
  have hboth := completes_iff.mp h
  obtain ⟨hinitializer, hentryName⟩ := map_callOf hboth
  refine ⟨rfl, rfl, hinitializer, hentryName, ?_⟩
  rw [overlaidCall, callOf_eq_none_iff, hboth, or_self, orElse_map_eq_none_iff]
  rw [orElse_map_eq_none_iff, orElse_map_eq_none_iff] at hboth
  tauto

/-- Of two options with one name the later one counts, and both names are needed. -/
lemma ofJson_overlaidMembers (p : ProjectConfig) (o : Overrides) :
    InitializerCall.ofJson (.ofMembers (p.overlaidMembers o)) =
      match o.initializer <|> p.call.map (·.initializer),
        o.entryName <|> p.call.map (·.entryName) with
      | some initializer, some entryName => .ok ⟨initializer, entryName⟩
      | none, some _ => .error [.missingField "initializer"]
      | some _, none => .error [.missingField "entryName"]
      | none, none => .error [.missingField "initializer", .missingField "entryName"] := by
  obtain ⟨call, _, _⟩ := p
  obtain ⟨initializer, entryName, _, _⟩ := o
  cases call <;> cases initializer <;> cases entryName <;> rfl

lemma ofJson_of_overlaidCall {c : InitializerCall} (h : overlaidCall p.call o = some c) :
    InitializerCall.ofJson (.ofMembers (p.overlaidMembers o)) = .ok c := by
  rw [ofJson_overlaidMembers]
  unfold overlaidCall callOf at h
  split at h <;> cases h
  rename_i hinitializer hentryName
  rw [hinitializer, hentryName]

/-- Where no option is given, the options are not checked. -/
lemma merge_of_absent (hi : o.initializer = none) (he : o.entryName = none) :
    p.merge o = (⟨p.call, o.outDir <|> p.outDir, o.pretty.getD p.pretty⟩, .ok ()) := by
  rw [ProjectConfig.merge, hi, he]
  rfl

lemma merge_of_given (h : ¬ (o.initializer = none ∧ o.entryName = none)) :
    p.merge o = match InitializerCall.ofJson (.ofMembers (p.overlaidMembers o)) with
      | .ok call => (⟨some call, o.outDir <|> p.outDir, o.pretty.getD p.pretty⟩, .ok ())
      | .error violations =>
        (⟨p.call, o.outDir <|> p.outDir, o.pretty.getD p.pretty⟩, .error violations) := by
  have hgiven : ¬ (o.initializer.isNone && o.entryName.isNone) = true := by simpa using h
  rw [ProjectConfig.merge, if_neg hgiven]
  rfl

lemma merge_of_completes (h : Completes p o) :
    p.merge o =
      (⟨overlaidCall p.call o, o.outDir <|> p.outDir, o.pretty.getD p.pretty⟩, .ok ()) := by
  by_cases hgiven : o.initializer = none ∧ o.entryName = none
  · obtain ⟨hi, he⟩ := hgiven
    have hsame : overlaidCall p.call o = p.call := by
      rw [overlaidCall, hi, he]
      exact callOf_map p.call
    rw [merge_of_absent hi he, hsame]
  · have hcall : overlaidCall p.call o ≠ none :=
      fun hnone => hgiven ((overlaidBy_overlaidCall h).absent.mp hnone).2
    obtain ⟨c, hc⟩ := Option.ne_none_iff_exists'.mp hcall
    rw [merge_of_given hgiven, ofJson_of_overlaidCall hc, hc]

lemma LeavesOpen.call_eq_none (h : LeavesOpen p o name) : p.call = none := by
  cases h <;> assumption

lemma exists_leavesOpen (h : ¬ Completes p o) : ∃ name, LeavesOpen p o name := by
  simp only [Completes, not_or, not_and, not_not] at h
  obtain ⟨hone, hcall, hboth⟩ := h
  cases hi : o.initializer with
  | none => exact ⟨_, .initializer hcall hi (hone hi)⟩
  | some initializer => exact ⟨_, .entryName hcall (by simp [hi]) (hboth (by simp [hi]))⟩

lemma merge_of_leavesOpen (h : LeavesOpen p o name) :
    p.merge o = (⟨p.call, o.outDir <|> p.outDir, o.pretty.getD p.pretty⟩,
      .error [.missingField name]) := by
  cases h with
  | initializer hcall hi he =>
    obtain ⟨entryName, he⟩ := Option.ne_none_iff_exists'.mp he
    rw [merge_of_given (by simp [he]), ofJson_overlaidMembers, hcall, hi, he]
    rfl
  | entryName hcall hi he =>
    obtain ⟨initializer, hi⟩ := Option.ne_none_iff_exists'.mp hi
    rw [merge_of_given (by simp [hi]), ofJson_overlaidMembers, hcall, hi, he]
    rfl

theorem mergesTo_merge (p : ProjectConfig) (o : Overrides) : MergesTo p o (p.merge o) := by
  by_cases h : Completes p o
  · rw [merge_of_completes h]
    exact .overlaid h (overlaidBy_overlaidCall h)
  · obtain ⟨name, hopen⟩ := exists_leavesOpen h
    rw [merge_of_leavesOpen hopen]
    exact .refused hopen rfl rfl rfl

lemma merge_eq_ok_iff : (p.merge o).2 = .ok () ↔ Completes p o := by
  constructor
  · intro h
    by_contra hnot
    obtain ⟨name, hopen⟩ := exists_leavesOpen hnot
    rw [merge_of_leavesOpen hopen] at h
    cases h
  · intro h
    rw [merge_of_completes h]

end

/-! ### One overlay after another -/

section

variable {p : ProjectConfig} {o earlier later : Overrides} {name : String}

lemma outDir_combined (outDir : Option String) :
    ((combined earlier later).outDir <|> outDir) =
      (later.outDir <|> (earlier.outDir <|> outDir)) :=
  orElse_assoc ..

lemma pretty_combined (pretty : Bool) :
    (combined earlier later).pretty.getD pretty =
      later.pretty.getD (earlier.pretty.getD pretty) := by
  cases h : later.pretty <;> simp [combined, h]

lemma combined_self (o : Overrides) : combined o o = o := by
  simp [combined]

/-- The options of two overlays are associative under each name, and so is the call. -/
lemma overlaidCall_overlaidCall (h : Completes p earlier) :
    overlaidCall (overlaidCall p.call earlier) later =
      overlaidCall p.call (combined earlier later) := by
  have hearlier := overlaidBy_overlaidCall h
  rw [overlaidCall, hearlier.initializer, hearlier.entryName, ← orElse_assoc, ← orElse_assoc]
  rfl

/-- What a second overlay leaves open stays open under both of them together. -/
lemma LeavesOpen.combined {outDir : Option String} {pretty : Bool} (h : Completes p earlier)
    (hlater : LeavesOpen ⟨overlaidCall p.call earlier, outDir, pretty⟩ later name) :
    LeavesOpen p (combined earlier later) name := by
  cases hlater with
  | initializer hcall hi he =>
    obtain ⟨hp, hei, hee⟩ := (overlaidBy_overlaidCall h).absent.mp hcall
    exact .initializer hp (by simp [Proofs.combined, hi, hei]) (by simp [Proofs.combined, he, hee])
  | entryName hcall hi he =>
    obtain ⟨hp, hei, hee⟩ := (overlaidBy_overlaidCall h).absent.mp hcall
    exact .entryName hp (by simp [Proofs.combined, hi, hei]) (by simp [Proofs.combined, he, hee])

lemma completes_combined {outDir : Option String} {pretty : Bool} (h : Completes p earlier) :
    Completes p (combined earlier later) ↔
      Completes ⟨overlaidCall p.call earlier, outDir, pretty⟩ later := by
  have hearlier := overlaidBy_overlaidCall h
  rw [completes_iff, completes_iff, hearlier.initializer, hearlier.entryName, ← orElse_assoc,
    ← orElse_assoc]
  rfl

/-- Two overlays are one, unless the first of them is refused. -/
lemma merge_merge (h : Completes p earlier) :
    (p.merge earlier).1.merge later = p.merge (combined earlier later) := by
  rw [merge_of_completes h]
  by_cases hlater : Completes ⟨overlaidCall p.call earlier, earlier.outDir <|> p.outDir,
      earlier.pretty.getD p.pretty⟩ later
  · rw [merge_of_completes hlater, merge_of_completes ((completes_combined h).mpr hlater),
      overlaidCall_overlaidCall h, outDir_combined, pretty_combined]
  · obtain ⟨name, hopen⟩ := exists_leavesOpen hlater
    have hcall : overlaidCall p.call earlier = p.call :=
      hopen.call_eq_none.trans (hopen.combined h).call_eq_none.symm
    rw [merge_of_leavesOpen hopen, merge_of_leavesOpen (hopen.combined h), outDir_combined,
      pretty_combined, hcall]

/-- The same overlay changes nothing more the second time, and is refused again if it was. -/
lemma merge_self (p : ProjectConfig) (o : Overrides) : (p.merge o).1.merge o = p.merge o := by
  by_cases h : Completes p o
  · rw [merge_merge h, combined_self]
  · obtain ⟨name, hopen⟩ := exists_leavesOpen h
    have hagain : LeavesOpen (p.merge o).1 o name := by
      rw [merge_of_leavesOpen hopen]
      cases hopen with
      | initializer hcall hi he => exact .initializer hcall hi he
      | entryName hcall hi he => exact .entryName hcall hi he
    rw [merge_of_leavesOpen hagain, merge_of_leavesOpen hopen, ← outDir_combined,
      ← pretty_combined, combined_self]

end

/-- A project is overlaid exactly if no option is left open. What is given stands over what was
there; the option that is left open is the only one that is missed, and the call stays. Overlays
after one another are one overlay, and the same one twice is as good as once. -/
theorem merge_overlays (p : ProjectConfig) :
    (∀ o, (p.merge o).2 = .ok () ↔ Completes p o) ∧
      (∀ o, MergesTo p o (p.merge o)) ∧
      (∀ earlier later, (p.merge earlier).2 = .ok () →
        (p.merge earlier).1.merge later = p.merge (combined earlier later)) ∧
      ∀ o, (p.merge o).1.merge o = p.merge o :=
  ⟨fun _ => merge_eq_ok_iff, mergesTo_merge p,
    fun _ _ h => merge_merge (merge_eq_ok_iff.mp h), merge_self p⟩

/-- A project without a call gets one first, and then another entry in another directory. -/
theorem merge_overlays_checkout :
    (ProjectConfig.default.merge ⟨some "setPath", some "app", none, some false⟩).2 = .ok () ∧
      (ProjectConfig.default.merge ⟨some "setPath", some "app", none, some false⟩).1.merge
          ⟨none, some "checkout", some "dist", none⟩ =
        ProjectConfig.default.merge
          ⟨some "setPath", some "checkout", some "dist", some false⟩ := by
  have h : (ProjectConfig.default.merge ⟨some "setPath", some "app", none, some false⟩).2 =
      .ok () := rfl
  exact ⟨h, (merge_overlays .default).2.2.1 _ ⟨none, some "checkout", some "dist", none⟩ h⟩

end PublicPath.Proofs
