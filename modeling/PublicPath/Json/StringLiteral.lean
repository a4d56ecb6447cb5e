import PublicPath.Text.Basic
import PublicPath.Json.Fault

/-!
# String literals

Writing escapes the quote, the backslash and the control characters below U+0020 and leaves all
else as it is. Reading accepts every escape of the format; a code point beyond U+FFFF may be written
as two escapes, and half of such a pair is a fault.
-/

namespace PublicPath.Json

open Text

/-- How one character stands inside a literal. -/
def escapeChar (c : Char) : List Char :=
  match c with
  | '"' => ['\\', '"']
  | '\\' => ['\\', '\\']
  | '\x08' => ['\\', 'b']
  | '\x0c' => ['\\', 'f']
  | '\n' => ['\\', 'n']
  | '\r' => ['\\', 'r']
  | '\t' => ['\\', 't']
  | c =>
    if c.toNat < 0x20 then
      ['\\', 'u', '0', '0', Nat.digitChar (c.toNat / 16), Nat.digitChar (c.toNat % 16)]
    else [c]

/-- The literal of a text, with its quotes. -/
def literal (cs : List Char) : List Char :=
  '"' :: (cs.flatMap escapeChar ++ ['"'])

def stringLiteral (s : String) : String :=
  String.ofList (literal s.toList)

def hexValue? (c : Char) : Option Nat :=
  if '0' ≤ c ∧ c ≤ '9' then some (c.toNat - '0'.toNat)
  else if 'a' ≤ c ∧ c ≤ 'f' then some (c.toNat - 'a'.toNat + 10)
  else if 'A' ≤ c ∧ c ≤ 'F' then some (c.toNat - 'A'.toNat + 10)
  else none

/-- Four hexadecimal digits. A text with fewer than four bytes left ends too early, whatever they
are. -/
def readHex (cs : List Char) : Except Fault (Nat × List Char) :=
  let digits := (cs.take 4).filterMap hexValue?
  if digits.length = 4 then .ok (digits.foldl (16 * · + ·) 0, cs.drop 4)
  else if byteLength cs < 4 then .error ⟨.endOfText, 0⟩
  else .error ⟨.malformed, cs.length⟩

def isHighSurrogate (n : Nat) : Bool := 0xd800 ≤ n && n ≤ 0xdbff

def isLowSurrogate (n : Nat) : Bool := 0xdc00 ≤ n && n ≤ 0xdfff

/-- The second half of a pair, from behind the first one. -/
def readLowSurrogate : List Char → Except Fault (Nat × List Char)
  | '\\' :: 'u' :: cs =>
    match readHex cs with
    | .error e => .error e
    | .ok (n, rest) => if isLowSurrogate n then .ok (n, rest) else .error ⟨.malformed, rest.length⟩
  | ['\\'] => .error ⟨.endOfText, 0⟩
  | cs => .error (Fault.at cs)

/-- The character of a code point escape, from behind its `u`. -/
def readCodePoint (cs : List Char) : Except Fault (Char × List Char) :=
  match readHex cs with
  | .error e => .error e
  | .ok (n, rest) =>
    if isLowSurrogate n then .error ⟨.malformed, rest.length⟩
    else if isHighSurrogate n then
      (readLowSurrogate rest).map fun (m, rest) =>
        (Char.ofNat (0x10000 + (n - 0xd800) * 0x400 + (m - 0xdc00)), rest)
    else .ok (Char.ofNat n, rest)

/-- The character that a one-letter escape stands for. -/
def simpleEscape? (c : Char) : Option Char :=
  match c with
  | '"' => some '"'
  | '\\' => some '\\'
  | '/' => some '/'
  | 'b' => some '\x08'
  | 'f' => some '\x0c'
  | 'n' => some '\n'
  | 'r' => some '\r'
  | 't' => some '\t'
  | _ => none

/-- One character of a literal, or none at its closing quote. -/
def readStringChar : List Char → Except Fault (Option Char × List Char)
  | [] => .error ⟨.endOfText, 0⟩
  | '"' :: rest => .ok (none, rest)
  | ['\\'] => .error ⟨.endOfText, 0⟩
  | '\\' :: 'u' :: rest => (readCodePoint rest).map fun (c, rest) => (some c, rest)
  | '\\' :: e :: rest =>
    match simpleEscape? e with
    | some c => .ok (some c, rest)
    | none => .error ⟨.malformed, rest.length⟩
  | c :: rest => if c.toNat < 0x20 then .error ⟨.malformed, rest.length⟩ else .ok (some c, rest)

theorem readHex_length_lt {cs rest : List Char} {n : Nat} (h : readHex cs = .ok (n, rest)) :
    rest.length < cs.length := by
  unfold readHex at h
  dsimp only at h
  split at h
  · rename_i hd
    cases h
    have := List.length_filterMap_le hexValue? (cs.take 4)
    simp only [List.length_take] at this
    simp only [List.length_drop]
    omega
  · split at h <;> cases h

theorem readLowSurrogate_length_lt {cs rest : List Char} {n : Nat}
    (h : readLowSurrogate cs = .ok (n, rest)) : rest.length < cs.length := by
  unfold readLowSurrogate at h
  split at h
  · split at h
    · cases h
    · rename_i hx
      split at h <;> cases h
      have := readHex_length_lt hx
      simp only [List.length_cons]
      omega
  · cases h
  · cases h

theorem readCodePoint_length_lt {cs rest : List Char} {c : Char}
    (h : readCodePoint cs = .ok (c, rest)) : rest.length < cs.length := by
  unfold readCodePoint at h
  split at h
  · cases h
  · rename_i n left hx
    have hl := readHex_length_lt hx
    split at h
    · cases h
    split at h
    · cases hs : readLowSurrogate left with
      | error e => simp [hs, Except.map] at h
      | ok found =>
        simp only [hs, Except.map, Except.ok.injEq, Prod.mk.injEq] at h
        have := readLowSurrogate_length_lt hs
        rw [← h.2]
        omega
    · cases h
      exact hl

theorem readStringChar_length_lt {cs rest : List Char} {c : Option Char}
    (h : readStringChar cs = .ok (c, rest)) : rest.length < cs.length := by
  unfold readStringChar at h
  split at h
  · cases h
  · cases h
    simp
  · cases h
  · rename_i left
    cases hx : readCodePoint left with
    | error e => simp [hx, Except.map] at h
    | ok found =>
      simp only [hx, Except.map, Except.ok.injEq, Prod.mk.injEq] at h
      have := readCodePoint_length_lt hx
      simp only [List.length_cons, ← h.2]
      omega
  · split at h <;> cases h
    simp only [List.length_cons]
    omega
  · split at h <;> cases h
    simp

/-- The text of a literal, from behind its opening quote. -/
def readString (cs : List Char) : Except Fault (List Char × List Char) :=
  match h : readStringChar cs with
  | .error e => .error e
  | .ok (none, rest) => .ok ([], rest)
  | .ok (some c, rest) =>
    have := readStringChar_length_lt h
    (readString rest).map fun (text, rest) => (c :: text, rest)
termination_by cs.length

end PublicPath.Json
