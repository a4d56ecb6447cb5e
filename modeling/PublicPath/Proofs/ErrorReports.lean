import Mathlib.Algebra.GroupWithZero.Nat
import PublicPath.Proofs.Processing
import PublicPath.Proofs.TurnTaking

/-!
# Errors and their reports

The errors of a build are kept twice: in its compilation, and as diagnostics in the handler that all
builds of a compiler share. Whatever is done with the compiler and its compilations, each error that
a compilation gains is reported once, in the order in which the errors occur.
-/

namespace PublicPath.Proofs

/-- A compiler with the compilations that it began and the handler that they report to. -/
structure Workshop where
  compiler : Compiler
  compilations : List Compilation
  handler : Handler

inductive Action where
  | register (plugin : Plugin)
  /-- A build that is begun has its taps and is not processed. -/
  | begin (entries : List ChunkEntry)
  | run (entries : List ChunkEntry)
  | tap (i : Nat) (tap : Tap)
  | process (i : Nat)

namespace Workshop

def start (compiler : Compiler) : Workshop := ⟨compiler, [], .empty⟩

def act (w : Workshop) : Action → Workshop
  | .register plugin => { w with compiler := w.compiler.register plugin }
  | .begin entries =>
    let (compiler, c, told) := w.compiler.begin entries
    ⟨compiler, w.compilations ++ [c], heard w.handler told⟩
  | .run entries =>
    let (compiler, c, told) := w.compiler.run entries
    ⟨compiler, w.compilations ++ [c], heard w.handler told⟩
  | .tap i tap => { w with compilations := w.compilations.modify i (·.addTap tap) }
  | .process i =>
    match w.compilations[i]? with
    | none => w
    | some c =>
      let (c, told) := c.process
      { w with compilations := w.compilations.set i c, handler := heard w.handler told }

def actAll (w : Workshop) (actions : List Action) : Workshop := actions.foldl act w

/-- The errors of the compilation with a number. -/
def errorsOf (w : Workshop) (i : Nat) : List ShapeError :=
  (w.compilations[i]?.map (·.errors)).getD []

/-- The errors by which the compilations of `w'` have more than those of `w`, with their numbers. -/
def gained (w w' : Workshop) : List (Nat × ShapeError) :=
  (List.range w'.compilations.length).flatMap fun i =>
    ((w'.errorsOf i).drop (w.errorsOf i).length).map (i, ·)

/-- The errors of some actions in the order in which they occur. -/
def history (w : Workshop) : List Action → List (Nat × ShapeError)
  | [] => []
  | action :: more => gained w (w.act action) ++ history (w.act action) more

end Workshop

/-- The handler and the compilations tell of the same errors, which occurred in this order. -/
structure InStep (w : Workshop) (pushed : List (Nat × ShapeError)) : Prop where
  diagnostics : w.handler.diagnostics =
    pushed.map fun x => ⟨.error, .chunk x.2.chunk, x.2.message⟩
  errors (i : Nat) : w.errorsOf i = (pushed.filter fun x => x.1 = i).map (·.2)
  errorCount : w.handler.errorCount = (w.compilations.map fun c => c.errors.length).sum
  warningCount : w.handler.warningCount = 0
  hasErrors : w.handler.hasErrors = true ↔ ∃ c ∈ w.compilations, c.hasErrors = true

/-! ### What is reported by a build -/

section Reports

variable (compiler : Compiler) (entries : List ChunkEntry)

lemma errors_begin : (compiler.begin entries).2.1.errors = [] := by
  change (Compiler.attach compiler.plugins (.start compiler.nextId entries)).1.errors = []
  rw [attach_eq]
  rfl

lemma reports_begin : diagnosticsOf (compiler.begin entries).2.2 =
    (compiler.begin entries).2.1.errors.map ShapeError.diagnostic := by
  rw [errors_begin]
  exact diagnosticsOf_attach _ _

lemma reports_run : diagnosticsOf (compiler.run entries).2.2 =
    (compiler.run entries).2.1.errors.map ShapeError.diagnostic := by
  have hprocess := errors_visitAll (compiler.begin entries).2.1 (compiler.begin entries).2.1.places
  rw [← reports_begin, ← diagnosticsOf_append] at hprocess
  exact hprocess.symm

/-- What a processing adds to the errors it reports. -/
lemma exists_errors_process (c : Compilation) : ∃ es, c.process.1.errors = c.errors ++ es ∧
    diagnosticsOf c.process.2 = es.map ShapeError.diagnostic := by
  refine ⟨_, (progress_process c).errors, ?_⟩
  have h := errors_visitAll c c.places
  change c.process.1.errors.map _ = _ ++ diagnosticsOf c.process.2 at h
  rw [(progress_process c).errors, List.map_append] at h
  exact (List.append_cancel_left h).symm

end Reports

/-! ### One action -/

section Act

variable {w w' : Workshop}

/-- What is gained if one compilation gained some errors and no other did. -/
lemma gained_eq {i : Nat} {es : List ShapeError}
    (h : ∀ j, w'.errorsOf j = w.errorsOf j ++ if j = i then es else [])
    (hi : i < w'.compilations.length ∨ es = []) : Workshop.gained w w' = es.map (i, ·) := by
  have hdrop : ∀ j, (w'.errorsOf j).drop (w.errorsOf j).length = if j = i then es else [] := by
    intro j
    rw [h, List.drop_left]
  simp only [Workshop.gained, hdrop]
  rcases hi with hi | rfl
  · rw [flatMap_eq_of_mem List.nodup_range (List.mem_range.mpr hi), if_pos rfl]
    intro j _ hj
    rw [if_neg hj, List.map_nil]
  · simp

/-- What an action does to the errors: one compilation gains some and reports them, if any does. -/
structure Gains (w w' : Workshop) (i : Nat) (es : List ShapeError) : Prop where
  length : w.compilations.length ≤ w'.compilations.length
  index : i < w'.compilations.length ∨ es = []
  errors (j : Nat) : w'.errorsOf j = w.errorsOf j ++ if j = i then es else []
  diagnostics : w'.handler.diagnostics = w.handler.diagnostics ++ es.map ShapeError.diagnostic

lemma gains_of_append {compiler : Compiler} {c : Compilation} {told : List BuildEvent}
    (h : diagnosticsOf told = c.errors.map ShapeError.diagnostic) :
    Gains w ⟨compiler, w.compilations ++ [c], heard w.handler told⟩ w.compilations.length
      c.errors := by
  constructor
  · simp
  · simp
  · intro j
    rcases Nat.lt_trichotomy j w.compilations.length with hj | hj | hj
    · simp [Workshop.errorsOf, List.getElem?_append_left hj, Nat.ne_of_lt hj]
    · simp [Workshop.errorsOf, hj]
    · have hnone : (w.compilations ++ [c])[j]? = none := by simp; omega
      have hnone' : w.compilations[j]? = none := by simp; omega
      simp [Workshop.errorsOf, hnone, hnone', Nat.ne_of_gt hj]
  · rw [diagnostics_heard, h]

lemma gains_of_set {i : Nat} {c c' : Compilation} {es : List ShapeError} {told : List BuildEvent}
    (hi : w.compilations[i]? = some c) (herrors : c'.errors = c.errors ++ es)
    (h : diagnosticsOf told = es.map ShapeError.diagnostic) :
    Gains w ⟨w.compiler, w.compilations.set i c', heard w.handler told⟩ i es := by
  have hlt : i < w.compilations.length := (List.getElem?_eq_some_iff.mp hi).1
  constructor
  · simp
  · simp [hlt]
  · intro j
    by_cases hj : j = i
    · subst hj
      simp [Workshop.errorsOf, List.getElem?_set_self hlt, hi, herrors]
    · simp [Workshop.errorsOf, List.getElem?_set_ne (Ne.symm hj), hj]
  · rw [diagnostics_heard, h]

lemma gains_nil (hlength : w'.compilations.length = w.compilations.length)
    (herrors : ∀ j, w'.errorsOf j = w.errorsOf j) (hhandler : w'.handler = w.handler) :
    Gains w w' 0 [] := by
  constructor
  · exact Nat.le_of_eq hlength.symm
  · exact .inr rfl
  · intro j
    simp [herrors]
  · simp [hhandler]

lemma act_gains (w : Workshop) (action : Action) : ∃ i es, Gains w (w.act action) i es := by
  cases action with
  | register plugin => exact ⟨0, [], gains_nil rfl (fun _ => rfl) rfl⟩
  | begin entries => exact ⟨_, _, gains_of_append (reports_begin w.compiler entries)⟩
  | run entries => exact ⟨_, _, gains_of_append (reports_run w.compiler entries)⟩
  | tap i tap =>
    refine ⟨0, [], gains_nil ?_ ?_ rfl⟩
    · exact List.length_modify ..
    · intro j
      simp only [Workshop.act, Workshop.errorsOf, List.getElem?_modify]
      cases w.compilations[j]? with
      | none => rfl
      | some c => by_cases hj : i = j <;> simp [hj, Compilation.addTap]
  | process i =>
    cases hi : w.compilations[i]? with
    | none =>
      have hact : w.act (.process i) = w := by simp [Workshop.act, hi]
      rw [hact]
      exact ⟨0, [], gains_nil rfl (fun _ => rfl) rfl⟩
    | some c =>
      obtain ⟨es, herrors, htold⟩ := exists_errors_process c
      have hact : w.act (.process i) =
          ⟨w.compiler, w.compilations.set i c.process.1, heard w.handler c.process.2⟩ := by
        simp [Workshop.act, hi]
      rw [hact]
      exact ⟨i, es, gains_of_set hi herrors htold⟩

end Act

/-! ### Many actions -/

/-- What is kept by every action. -/
structure Books (w : Workshop) (pushed : List (Nat × ShapeError)) : Prop where
  index : ∀ x ∈ pushed, x.1 < w.compilations.length
  errors (i : Nat) : w.errorsOf i = (pushed.filter fun x => x.1 = i).map (·.2)
  diagnostics : w.handler.diagnostics = pushed.map fun x => x.2.diagnostic

section Books

variable {w : Workshop} {pushed : List (Nat × ShapeError)}

lemma books_start (compiler : Compiler) : Books (.start compiler) [] := by
  constructor <;> simp [Workshop.start, Workshop.errorsOf, Handler.empty]

lemma Books.act (h : Books w pushed) (action : Action) :
    Books (w.act action) (pushed ++ Workshop.gained w (w.act action)) := by
  obtain ⟨i, es, hgains⟩ := act_gains w action
  rw [gained_eq hgains.errors hgains.index]
  constructor
  · intro x hx
    rcases List.mem_append.mp hx with hx | hx
    · exact Nat.lt_of_lt_of_le (h.index x hx) hgains.length
    · obtain ⟨e, he, rfl⟩ := List.mem_map.mp hx
      rcases hgains.index with hi | rfl
      · exact hi
      · cases he
  · intro j
    rw [hgains.errors, h.errors, List.filter_append, List.map_append, List.filter_map]
    by_cases hj : j = i
    · subst hj
      simp [Function.comp_def]
    · simp [Function.comp_def, hj, Ne.symm hj]
  · rw [hgains.diagnostics, h.diagnostics, List.map_append, List.map_map]
    rfl

lemma Books.actAll (h : Books w pushed) (actions : List Action) :
    Books (w.actAll actions) (pushed ++ w.history actions) := by
  induction actions generalizing w pushed with
  | nil =>
    rw [Workshop.history, List.append_nil]
    exact h
  | cons action actions ih =>
    have hrest := ih (h.act action)
    rw [List.append_assoc] at hrest
    exact hrest

lemma countP_lt_succ (xs : List (Nat × ShapeError)) (n : Nat) :
    xs.countP (fun x => x.1 < n + 1) =
      xs.countP (fun x => x.1 < n) + xs.countP fun x => x.1 = n := by
  induction xs with
  | nil => rfl
  | cons x xs ih =>
    simp only [List.countP_cons, ih, decide_eq_true_eq]
    split <;> split <;> split <;> omega

lemma sum_countP (xs : List (Nat × ShapeError)) (n : Nat) :
    ((List.range n).map fun i => xs.countP fun x => x.1 = i).sum =
      xs.countP fun x => x.1 < n := by
  induction n with
  | zero => simp
  | succ n ih =>
    rw [countP_lt_succ, ← ih, List.range_succ, List.map_append, List.sum_append, List.map_singleton,
      List.sum_singleton]

lemma Books.sum_errors (h : Books w pushed) :
    (w.compilations.map fun c => c.errors.length).sum = pushed.length := by
  have hlengths : (w.compilations.map fun c => c.errors.length) =
      (List.range w.compilations.length).map fun i => pushed.countP fun x => x.1 = i := by
    apply List.ext_getElem
    · simp
    · intro i hi _
      have hi' : i < w.compilations.length := by simpa using hi
      have herrors := congrArg List.length (h.errors i)
      simpa [Workshop.errorsOf, List.getElem?_eq_getElem hi', List.countP_eq_length_filter]
        using herrors
  rw [hlengths, sum_countP, List.countP_eq_length.mpr]
  intro x hx
  simpa using h.index x hx

lemma Books.errorCount (h : Books w pushed) : w.handler.errorCount = pushed.length := by
  rw [Handler.errorCount, Handler.count, h.diagnostics, List.countP_map, List.countP_eq_length]
  intro x _
  rfl

lemma Books.warningCount (h : Books w pushed) : w.handler.warningCount = 0 := by
  rw [Handler.warningCount, Handler.count, h.diagnostics, List.countP_map, List.countP_eq_zero]
  intro x _
  simp [ShapeError.diagnostic]

lemma Books.hasErrors (h : Books w pushed) :
    w.handler.hasErrors = true ↔ ∃ c ∈ w.compilations, c.hasErrors = true := by
  have hsum : w.handler.hasErrors = true ↔
      0 < (w.compilations.map fun c => c.errors.length).sum := by
    rw [h.sum_errors, ← h.errorCount, Handler.hasErrors, decide_eq_true_iff]
  rw [hsum, Nat.pos_iff_ne_zero, ne_eq, List.sum_eq_zero_iff_forall_eq_nat]
  simp [Compilation.hasErrors]

end Books

/-- Errors and diagnostics never drift apart, whatever is done with a compiler and its builds. -/
theorem actAll_inStep (compiler : Compiler) (actions : List Action) :
    InStep ((Workshop.start compiler).actAll actions)
      ((Workshop.start compiler).history actions) := by
  have h : Books ((Workshop.start compiler).actAll actions)
      ((Workshop.start compiler).history actions) := (books_start compiler).actAll actions
  constructor
  · exact h.diagnostics
  · exact h.errors
  · rw [h.errorCount, h.sum_errors]
  · exact h.warningCount
  · exact h.hasErrors

end PublicPath.Proofs
