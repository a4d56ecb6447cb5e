import PublicPath.Text.Basic
import PublicPath.Statement.Error
import PublicPath.Statement.Lexeme

/-!
# Assignment targets

A target is an identifier followed by accesses: a dot and an identifier, or a literal in square
brackets. Blanks may stand around dots and inside brackets. Each scanner takes the offset of its
text and returns the part it takes and the part that follows.
-/

namespace PublicPath.Statement

open Text

/-- The error at a place where no target can go on. -/
def unexpectedAt (offset : Nat) : List Char → StatementError
  | [] => .missingOperator offset
  | c :: _ => .invalidTarget c offset

def scanIdentifier (offset : Nat) : List Char → Except StatementError (List Char × List Char)
  | [] => .error (.missingOperator offset)
  | c :: rest =>
    if isIdentifierStart c then
      .ok (c :: rest.takeWhile isIdentifierPart, rest.dropWhile isIdentifierPart)
    else .error (.invalidTarget c offset)

/-- The key between square brackets: a quoted literal on one line, or decimal digits. -/
def scanKey (offset : Nat) (cs : List Char) : Except StatementError (List Char × List Char) :=
  match cs with
  | [] => .error (.missingOperator offset)
  | c :: rest =>
    if c = '"' ∨ c = '\'' then
      match closeQuoted c rest with
      | some (taken, left) => .ok (c :: taken, left)
      | none => .error (.unterminatedLiteral c offset)
    else if c.isDigit then .ok (cs.takeWhile Char.isDigit, cs.dropWhile Char.isDigit)
    else .error (.invalidTarget c offset)

/-- The name behind a dot. -/
def scanMember (offset : Nat) (cs : List Char) : Except StatementError (List Char × List Char) :=
  match scanIdentifier (offset + byteLength (leadingBlanks cs)) (skipBlanks cs) with
  | .error e => .error e
  | .ok (name, left) => .ok (leadingBlanks cs ++ name, left)

/-- The key behind an opening bracket, through the closing one. -/
def scanIndex (offset : Nat) (cs : List Char) : Except StatementError (List Char × List Char) :=
  match scanKey (offset + byteLength (leadingBlanks cs)) (skipBlanks cs) with
  | .error e => .error e
  | .ok (key, left) =>
    let inside := leadingBlanks cs ++ key ++ leadingBlanks left
    match skipBlanks left with
    | ']' :: left => .ok (inside ++ [']'], left)
    | left => .error (unexpectedAt (offset + byteLength inside) left)

/-- One access, or nothing where the target ends. Blanks in front belong to an access only. -/
def scanAccess (offset : Nat) (cs : List Char) :
    Except StatementError (Option (List Char × List Char)) :=
  let lead := leadingBlanks cs
  let behind := offset + byteLength lead + 1
  match skipBlanks cs with
  | '.' :: rest => (scanMember behind rest).map fun (name, left) => some (lead ++ '.' :: name, left)
  | '[' :: rest => (scanIndex behind rest).map fun (key, left) => some (lead ++ '[' :: key, left)
  | _ => .ok none

theorem scanIdentifier_append {offset : Nat} {cs taken left : List Char}
    (h : scanIdentifier offset cs = .ok (taken, left)) : taken ++ left = cs := by
  unfold scanIdentifier at h
  split at h
  · cases h
  · split at h <;> cases h
    simp [List.takeWhile_append_dropWhile]

theorem scanKey_append {offset : Nat} {cs taken left : List Char}
    (h : scanKey offset cs = .ok (taken, left)) : taken ++ left = cs := by
  unfold scanKey at h
  split at h
  · cases h
  · split at h
    · split at h <;> cases h
      rename_i hq
      simp [closeQuoted_append hq]
    · split at h <;> cases h
      exact List.takeWhile_append_dropWhile

theorem scanMember_append {offset : Nat} {cs taken left : List Char}
    (h : scanMember offset cs = .ok (taken, left)) : taken ++ left = cs := by
  unfold scanMember at h
  split at h <;> cases h
  rename_i hi
  rw [List.append_assoc, scanIdentifier_append hi, leadingBlanks_append_skipBlanks]

theorem scanIndex_append {offset : Nat} {cs taken left : List Char}
    (h : scanIndex offset cs = .ok (taken, left)) : taken ++ left = cs := by
  unfold scanIndex at h
  split at h
  · cases h
  · rename_i key after hk
    dsimp only at h
    split at h <;> cases h
    rename_i hr
    have ha := leadingBlanks_append_skipBlanks after
    rw [hr] at ha
    simp only [List.append_assoc, List.cons_append, List.nil_append, ha, scanKey_append hk,
      leadingBlanks_append_skipBlanks]

/-- An access and what follows it are the text, and an access is not empty. -/
theorem scanAccess_append {offset : Nat} {cs taken left : List Char}
    (h : scanAccess offset cs = .ok (some (taken, left))) : taken ++ left = cs ∧ taken ≠ [] := by
  unfold scanAccess at h
  dsimp only at h
  have hc := leadingBlanks_append_skipBlanks cs
  split at h
  · rename_i rest hr
    rw [hr] at hc
    cases hm : scanMember (offset + byteLength (leadingBlanks cs) + 1) rest <;>
      simp only [hm, Except.map, reduceCtorEq, Except.ok.injEq, Option.some.injEq,
        Prod.mk.injEq] at h
    obtain ⟨rfl, rfl⟩ := h
    exact ⟨by simp [scanMember_append hm, hc], by simp⟩
  · rename_i rest hr
    rw [hr] at hc
    cases hm : scanIndex (offset + byteLength (leadingBlanks cs) + 1) rest <;>
      simp only [hm, Except.map, reduceCtorEq, Except.ok.injEq, Option.some.injEq,
        Prod.mk.injEq] at h
    obtain ⟨rfl, rfl⟩ := h
    exact ⟨by simp [scanIndex_append hm, hc], by simp⟩
  · cases h

theorem scanAccess_length_lt {offset : Nat} {cs taken left : List Char}
    (h : scanAccess offset cs = .ok (some (taken, left))) : left.length < cs.length := by
  rw [← (scanAccess_append h).1, List.length_append]
  have := List.length_pos_iff.2 (scanAccess_append h).2
  omega

/-- As many accesses as follow one another. -/
def scanAccesses (offset : Nat) (cs : List Char) :
    Except StatementError (List Char × List Char) :=
  match h : scanAccess offset cs with
  | .error e => .error e
  | .ok none => .ok ([], cs)
  | .ok (some (taken, left)) =>
    have := scanAccess_length_lt h
    (scanAccesses (offset + byteLength taken) left).map fun (more, left) => (taken ++ more, left)
termination_by cs.length

/-- An identifier and its accesses. -/
def scanTarget (offset : Nat) (cs : List Char) :
    Except StatementError (List Char × List Char) :=
  match scanIdentifier offset cs with
  | .error e => .error e
  | .ok (name, left) =>
    (scanAccesses (offset + byteLength name) left).map fun (more, left) => (name ++ more, left)

end PublicPath.Statement
