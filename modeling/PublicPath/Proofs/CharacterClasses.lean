import Mathlib.Data.List.TakeWhile
import Mathlib.Tactic.Common
import PublicPath.Statement.Lexeme

/-!
# Classes of characters

A run of characters of one class ends where the class ends, so that the runs a scanner takes are
known from the characters around them. Blanks, identifier characters and the marks of the statement
grammar have no character in common.
-/

namespace PublicPath.Proofs
open Text Statement

/-- No character of the class `p` stands at the front of a text. -/
def Stops (p : Char → Bool) (cs : List Char) : Prop :=
  ∀ c, cs.head? = some c → p c = false

/-- Nothing but white space. -/
def Blanks (cs : List Char) : Prop :=
  ∀ c ∈ cs, isBlank c = true

lemma stops_nil {p : Char → Bool} : Stops p [] := by
  intro c h
  cases h

lemma stops_cons {p : Char → Bool} {c : Char} {cs : List Char} :
    Stops p (c :: cs) ↔ p c = false := by
  simp [Stops]

lemma stops_append {p : Char → Bool} {front back : List Char} (h : front ≠ []) :
    Stops p (front ++ back) ↔ Stops p front := by
  cases front with
  | nil => exact absurd rfl h
  | cons c front => simp only [List.cons_append, stops_cons]

lemma Stops.of_append {p : Char → Bool} {front back : List Char} (h : Stops p (front ++ back)) :
    Stops p front := by
  cases front with
  | nil => exact stops_nil
  | cons c front => exact stops_cons.mpr (stops_cons.mp h)

lemma Stops.append_cons {p : Char → Bool} {front : List Char} (h : Stops p front) {c : Char}
    (hc : p c = false) (back : List Char) : Stops p (front ++ c :: back) := by
  cases front with
  | nil => exact stops_cons.mpr hc
  | cons d front => exact stops_cons.mpr (stops_cons.mp h)

lemma stops_dropWhile (p : Char → Bool) (cs : List Char) : Stops p (cs.dropWhile p) := by
  intro c h
  have hd := List.head?_dropWhile_not p cs
  rw [h] at hd
  exact hd

lemma takeWhile_run {p : Char → Bool} {run rest : List Char} (hrun : ∀ c ∈ run, p c = true)
    (hrest : Stops p rest) : (run ++ rest).takeWhile p = run := by
  rw [List.takeWhile_append_of_pos hrun]
  cases rest with
  | nil => simp
  | cons c rest => simp [stops_cons.mp hrest]

lemma dropWhile_run {p : Char → Bool} {run rest : List Char} (hrun : ∀ c ∈ run, p c = true)
    (hrest : Stops p rest) : (run ++ rest).dropWhile p = rest := by
  rw [List.dropWhile_append_of_pos hrun]
  cases rest with
  | nil => rfl
  | cons c rest => simp [stops_cons.mp hrest]

lemma mem_takeWhile {p : Char → Bool} {cs : List Char} : ∀ c ∈ cs.takeWhile p, p c = true :=
  fun _ h => List.mem_takeWhile_imp h

lemma blanks_nil : Blanks [] := by
  intro c h
  cases h

lemma blanks_singleton {c : Char} (h : isBlank c = true) : Blanks [c] := by
  intro d hd
  rwa [List.mem_singleton.mp hd]

lemma blanks_leadingBlanks (cs : List Char) : Blanks (leadingBlanks cs) :=
  mem_takeWhile

lemma stops_skipBlanks (cs : List Char) : Stops isBlank (skipBlanks cs) :=
  stops_dropWhile isBlank cs

lemma leadingBlanks_run {w rest : List Char} (hw : Blanks w) (hrest : Stops isBlank rest) :
    leadingBlanks (w ++ rest) = w :=
  takeWhile_run hw hrest

lemma skipBlanks_run {w rest : List Char} (hw : Blanks w) (hrest : Stops isBlank rest) :
    skipBlanks (w ++ rest) = rest :=
  dropWhile_run hw hrest

/-! ### Identifiers and blanks -/

/-- The code points of white space. -/
def blankCodes : List Nat :=
  List.range' 0x09 5 ++ List.range' 0x2000 11 ++
    [0x20, 0x85, 0xa0, 0x1680, 0x2028, 0x2029, 0x202f, 0x205f, 0x3000]

lemma toNat_mem_blankCodes {c : Char} (h : isBlank c = true) : c.toNat ∈ blankCodes := by
  simp only [isBlank, Bool.or_eq_true, Bool.and_eq_true, decide_eq_true_eq] at h
  simp only [blankCodes, List.mem_append, List.mem_range'_1, List.mem_cons, List.not_mem_nil, or_false]
  omega

lemma not_isIdentifierPart_of_mem_blankCodes :
    ∀ n ∈ blankCodes, isIdentifierPart (Char.ofNat n) = false := by
  decide +kernel

lemma not_isIdentifierPart_of_isBlank {c : Char} (h : isBlank c = true) :
    isIdentifierPart c = false := by
  have hc := not_isIdentifierPart_of_mem_blankCodes _ (toNat_mem_blankCodes h)
  rwa [Char.ofNat_toNat] at hc

/-- The characters with a meaning of their own in a statement. -/
def marks : List Char :=
  ['=', '(', ',', '[', '!', '&', '|', '?', ':', '\x7b', '\x7d', ';', '+', '-', '*', '/', '%', '<',
    '>', '~', '^', ')', ']', '.', '"', '\'', '`', '\\']

-- `List.all` keeps the check to the list: a bounded statement would be decided over all characters.
lemma not_isIdentifierPart_of_mem_marks : ∀ c ∈ marks, isIdentifierPart c = false := by
  have hall : marks.all (fun c => !isIdentifierPart c) = true := by
    decide +kernel
  simpa using hall

lemma not_isBlank_of_mem_marks : ∀ c ∈ marks, isBlank c = false := by
  have hall : marks.all (fun c => !isBlank c) = true := by
    decide +kernel
  simpa using hall

lemma isIdentifierPart_of_isIdentifierStart {c : Char} (h : isIdentifierStart c = true) :
    isIdentifierPart c = true := by
  simp only [isIdentifierStart, isIdentifierPart, Bool.or_eq_true] at h ⊢
  tauto

lemma isIdentifierPart_of_isDigit {c : Char} (h : c.isDigit = true) : isIdentifierPart c = true := by
  have hc : c.toNat < 128 := by
    simp only [Char.isDigit, Bool.and_eq_true, decide_eq_true_eq, ge_iff_le, UInt32.le_iff_toNat_le] at h
    have h9 : ('9' : Char).val.toNat = 57 := rfl
    have := h.2
    simp only [Char.toNat]
    omega
  simp [isIdentifierPart, isNumeric, hc, h]

/-- A character that a mark or a blank is compared with is not part of an identifier. -/
lemma ne_of_isIdentifierPart {c d : Char} (hc : isIdentifierPart c = true) (hd : d ∈ marks) :
    c ≠ d := by
  rintro rfl
  rw [not_isIdentifierPart_of_mem_marks c hd] at hc
  cases hc

lemma not_isBlank_of_isIdentifierPart {c : Char} (hc : isIdentifierPart c = true) :
    isBlank c = false := by
  by_contra h
  rw [not_isIdentifierPart_of_isBlank (by simpa using h)] at hc
  cases hc

end PublicPath.Proofs
