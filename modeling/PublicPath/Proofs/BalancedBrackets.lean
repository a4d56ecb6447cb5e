import PublicPath.Proofs.ValueScanning

/-!
# Balanced brackets

Lexemes are balanced when every bracket has its partner. The brackets that a scan holds open are
those that the lexemes so far leave open, so that none is open exactly behind balanced lexemes.
-/

namespace PublicPath.Proofs
open Text Statement

/-- An opening or a closing bracket that stands for itself. -/
def IsBracket (x : Lexeme) : Prop :=
  ∃ c, x = .mark c ∧ (isOpener c = true ∨ ∃ opener, openerOf c = some opener)

inductive Balanced : List Lexeme → Prop
  | nil : Balanced []
  | other {x : Lexeme} {xs : List Lexeme} (hx : ¬ IsBracket x) (h : Balanced xs) : Balanced (x :: xs)
  | group {opener closer : Char} {inner xs : List Lexeme} (hc : openerOf closer = some opener)
      (hi : Balanced inner) (h : Balanced xs) :
      Balanced (.mark opener :: (inner ++ .mark closer :: xs))

/-- Lexemes that turn the open brackets, innermost first, into others. -/
inductive Leaves : List Char → List Lexeme → List Char → Prop
  | nil (stack : List Char) : Leaves stack [] stack
  | other {stack left : List Char} {x : Lexeme} {xs : List Lexeme} (hx : ¬ IsBracket x)
      (h : Leaves stack xs left) : Leaves stack (x :: xs) left
  | opens {stack left : List Char} {c : Char} {xs : List Lexeme} (hc : isOpener c = true)
      (h : Leaves (c :: stack) xs left) : Leaves stack (.mark c :: xs) left
  | closes {stack left : List Char} {c opener : Char} {xs : List Lexeme}
      (hc : openerOf c = some opener) (h : Leaves stack xs left) :
      Leaves (opener :: stack) (.mark c :: xs) left

lemma isBracket_opener {c : Char} (h : isOpener c = true) : IsBracket (.mark c) :=
  ⟨c, rfl, .inl h⟩

lemma isBracket_closer {c opener : Char} (h : openerOf c = some opener) : IsBracket (.mark c) :=
  ⟨c, rfl, .inr ⟨opener, h⟩⟩

lemma not_isBracket_mark {c : Char} (ho : isOpener c = false) (hc : openerOf c = none) :
    ¬ IsBracket (.mark c) := by
  rintro ⟨d, hd, h | ⟨opener, h⟩⟩
  · cases hd
    rw [ho] at h
    cases h
  · cases hd
    rw [hc] at h
    cases h

lemma isOpener_openerOf {c opener : Char} (h : openerOf c = some opener) : isOpener opener = true := by
  unfold openerOf at h
  split_ifs at h <;> cases h <;> rfl

lemma Leaves.append {stack mid left : List Char} {xs ys : List Lexeme} (hx : Leaves stack xs mid)
    (hy : Leaves mid ys left) : Leaves stack (xs ++ ys) left := by
  induction hx with
  | nil => exact hy
  | other hx _ ih => exact .other hx (ih hy)
  | opens hc _ ih => exact .opens hc (ih hy)
  | closes hc _ ih => exact .closes hc (ih hy)

lemma Leaves.split {stack left : List Char} {xs ys : List Lexeme} (h : Leaves stack (xs ++ ys) left) :
    ∃ mid, Leaves stack xs mid ∧ Leaves mid ys left := by
  induction xs generalizing stack with
  | nil => exact ⟨stack, .nil stack, h⟩
  | cons x xs ih =>
    cases h with
    | other hx h =>
      obtain ⟨mid, hfront, hback⟩ := ih h
      exact ⟨mid, .other hx hfront, hback⟩
    | opens hc h =>
      obtain ⟨mid, hfront, hback⟩ := ih h
      exact ⟨mid, .opens hc hfront, hback⟩
    | closes hc h =>
      obtain ⟨mid, hfront, hback⟩ := ih h
      exact ⟨mid, .closes hc hfront, hback⟩

lemma Leaves.unique {stack left left' : List Char} {xs : List Lexeme} (h : Leaves stack xs left)
    (h' : Leaves stack xs left') : left = left' := by
  induction h with
  | nil =>
    cases h'
    rfl
  | other hx _ ih =>
    cases h' with
    | other _ h' => exact ih h'
    | opens hc _ => exact absurd (isBracket_opener hc) hx
    | closes hc _ => exact absurd (isBracket_closer hc) hx
  | opens hc _ ih =>
    cases h' with
    | other hx _ => exact absurd (isBracket_opener hc) hx
    | opens _ h' => exact ih h'
    | closes hc' _ =>
      rw [isOpener_of_openerOf hc'] at hc
      cases hc
  | closes hc _ ih =>
    cases h' with
    | other hx _ => exact absurd (isBracket_closer hc) hx
    | opens hc' _ =>
      rw [isOpener_of_openerOf hc] at hc'
      cases hc'
    | closes _ h' => exact ih h'

lemma leaves_of_balanced {xs : List Lexeme} (h : Balanced xs) (stack : List Char) :
    Leaves stack xs stack := by
  induction h generalizing stack with
  | nil => exact .nil stack
  | other hx _ ih => exact .other hx (ih stack)
  | group hc _ _ ihi ih =>
    exact .opens (isOpener_openerOf hc) ((ihi _).append (.closes hc (ih stack)))

/-- Balanced lexemes, a closing bracket for each that is open, and balanced lexemes again. -/
def ClosesAll : List Char → List Lexeme → Prop
  | [], xs => Balanced xs
  | opener :: stack, xs => ∃ inner closer rest, xs = inner ++ .mark closer :: rest ∧
      openerOf closer = some opener ∧ Balanced inner ∧ ClosesAll stack rest

lemma closesAll_other {x : Lexeme} (hx : ¬ IsBracket x) {stack : List Char} {xs : List Lexeme}
    (h : ClosesAll stack xs) : ClosesAll stack (x :: xs) := by
  cases stack with
  | nil => exact .other hx h
  | cons opener stack =>
    obtain ⟨inner, closer, rest, rfl, hc, hi, hrest⟩ := h
    exact ⟨x :: inner, closer, rest, rfl, hc, .other hx hi, hrest⟩

lemma closesAll_opens {c : Char} {stack : List Char} {xs : List Lexeme}
    (h : ClosesAll (c :: stack) xs) : ClosesAll stack (.mark c :: xs) := by
  obtain ⟨inner, closer, rest, rfl, hc, hi, hrest⟩ := h
  cases stack with
  | nil => exact .group hc hi hrest
  | cons opener stack =>
    obtain ⟨inner', closer', rest', rfl, hc', hi', hrest'⟩ := hrest
    exact ⟨.mark c :: (inner ++ .mark closer :: inner'), closer', rest', by simp, hc',
      .group hc hi hi', hrest'⟩

lemma closesAll_of_leaves {stack left : List Char} {xs : List Lexeme} (h : Leaves stack xs left)
    (hleft : left = []) : ClosesAll stack xs := by
  induction h with
  | nil =>
    subst hleft
    exact .nil
  | other hx _ ih => exact closesAll_other hx (ih hleft)
  | opens _ _ ih => exact closesAll_opens (ih hleft)
  | closes hc _ ih => exact ⟨[], _, _, rfl, hc, .nil, ih hleft⟩

/-- Exactly balanced lexemes leave no bracket open. -/
theorem leaves_nil_iff {xs : List Lexeme} : Leaves [] xs [] ↔ Balanced xs :=
  ⟨fun h => closesAll_of_leaves h rfl, fun h => leaves_of_balanced h []⟩

/-! ### The brackets of a scan -/

/-- The brackets that are open, innermost first. -/
def openersOf (s : Context) : List Char := s.opened.map (·.1)

lemma openersOf_eq_nil {s : Context} : openersOf s = [] ↔ s.opened = [] :=
  List.map_eq_nil_iff

lemma leaves_of_contextStep {s t : Context} {offset : Nat} {after : Option Char} {x : Lexeme}
    (h : ContextStep s offset after x t) : Leaves (openersOf s) [x] (openersOf t) := by
  cases h with
  | comment | blank | regex | quoted => exact .other (by rintro ⟨c, hc, -⟩; cases hc) (.nil _)
  | opens h => exact .opens h (.nil _)
  | closes h hs =>
    rw [openersOf, hs, List.map_cons]
    exact .closes h (.nil _)
  | plain ho hc => exact .other (not_isBracket_mark ho hc) (.nil _)

lemma leaves_of_reads {after : List Char} {offset : Nat} {s t : Context} {xs : List Lexeme}
    (h : Reads after offset s xs t) : Leaves (openersOf s) xs (openersOf t) := by
  induction h with
  | nil => exact .nil _
  | cons _ hstep _ ih => exact (leaves_of_contextStep hstep).append ih

end PublicPath.Proofs
