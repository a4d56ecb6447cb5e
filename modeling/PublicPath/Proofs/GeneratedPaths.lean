import PublicPath.Build.RuntimeModule
import PublicPath.Json.Reader
import PublicPath.Proofs.Replacement

/-!
# Generated public paths

The bundler writes a static public path as a literal of the data format. The rule by which a
character is escaped in such a literal is said apart from its writer; a text that follows the rule
neither ends its literal early for the scanner of script code, nor is it read as another text.
-/

namespace PublicPath.Proofs
open Text Statement Json

/-- The characters that a literal of the data format cannot hold as they are. -/
def NeedsEscape (c : Char) : Prop := c = '"' ∨ c = '\\' ∨ c.toNat < 0x20

/-- How a character is written inside a literal: as it is, by a letter, or, where no letter stands
for it, by its code point. -/
inductive EscapedAs (c : Char) : List Char → Prop
  | itself (h : ¬ NeedsEscape c) : EscapedAs c [c]
  | letter {e : Char} (h : NeedsEscape c) (he : simpleEscape? e = some c) : EscapedAs c ['\\', e]
  | codePoint (h : c.toNat < 0x20) (hnone : ∀ e, simpleEscape? e ≠ some c) :
      EscapedAs c ['\\', 'u', '0', '0', Nat.digitChar (c.toNat / 16), Nat.digitChar (c.toNat % 16)]

/-- Quotes around the characters of a text, each of them escaped. -/
def IsLiteralOf (cs text : List Char) : Prop :=
  ∃ pieces, List.Forall₂ EscapedAs cs pieces ∧ text = '"' :: (pieces.flatten ++ ['"'])

/-! ### The writer -/

lemma escapedAs_escapeChar (c : Char) : EscapedAs c (escapeChar c) := by
  unfold escapeChar
  split
  · exact .letter (.inl rfl) rfl
  · exact .letter (.inr (.inl rfl)) rfl
  · exact .letter (.inr (.inr (by decide))) rfl
  · exact .letter (.inr (.inr (by decide))) rfl
  · exact .letter (.inr (.inr (by decide))) rfl
  · exact .letter (.inr (.inr (by decide))) rfl
  · exact .letter (.inr (.inr (by decide))) rfl
  · rename_i hquote hslash hb hf hn hr ht
    split
    · rename_i hc
      refine .codePoint hc fun e he => ?_
      unfold simpleEscape? at he
      split at he <;> cases he <;> simp_all
    · rename_i hc
      refine .itself ?_
      rintro (h | h | h)
      exacts [hquote h, hslash h, hc h]

theorem isLiteralOf_literal (cs : List Char) : IsLiteralOf cs (literal cs) := by
  refine ⟨cs.map escapeChar, ?_, by rw [literal, List.flatMap_def]⟩
  induction cs with
  | nil => exact .nil
  | cons c cs ih => exact .cons (escapedAs_escapeChar c) ih

/-! ### The scanner of script code -/

lemma digitChar_inside : ∀ n < 16, Nat.digitChar n ≠ '"' ∧ Nat.digitChar n ≠ '\\' ∧
    Nat.digitChar n ≠ '\n' := by
  decide

lemma EscapedAs.quotedBody {c : Char} {piece : List Char} (h : EscapedAs c piece) :
    QuotedBody '"' piece := by
  cases h with
  | itself h =>
    simp only [NeedsEscape, not_or] at h
    refine quotedBody_of_forall (List.forall_mem_singleton.mpr ⟨h.1, h.2.1, ?_⟩)
    rintro rfl
    exact h.2.2 (by decide)
  | letter => exact .escape _ .nil
  | codePoint h =>
    have hzero : '0' ≠ '"' ∧ '0' ≠ '\\' ∧ '0' ≠ '\n' := by decide
    have hhigh := digitChar_inside (c.toNat / 16) (by omega)
    have hlow := digitChar_inside (c.toNat % 16) (by omega)
    refine .escape 'u' (quotedBody_of_forall ?_)
    simp only [List.forall_mem_cons, List.not_mem_nil, false_imp_iff, implies_true, and_true]
    exact ⟨hzero, hzero, hhigh, hlow⟩

/-- The scanner finds the end of a literal of the data format where it is. -/
lemma IsLiteralOf.exists_body {cs text : List Char} (h : IsLiteralOf cs text) :
    ∃ body, QuotedBody '"' body ∧ text = '"' :: (body ++ ['"']) := by
  obtain ⟨pieces, hpieces, rfl⟩ := h
  refine ⟨pieces.flatten, ?_, rfl⟩
  induction hpieces with
  | nil => exact .nil
  | cons hc _ ih => exact hc.quotedBody.append ih

/-! ### The reader of the data format -/

lemma hexValue?_digitChar : ∀ n < 16, hexValue? (Nat.digitChar n) = some n := by
  decide

lemma readHex_codePoint {n : Nat} (h : n < 0x20) (rest : List Char) :
    readHex ('0' :: '0' :: Nat.digitChar (n / 16) :: Nat.digitChar (n % 16) :: rest) =
      .ok (n, rest) := by
  have hzero : hexValue? '0' = some 0 := rfl
  have hhigh := hexValue?_digitChar (n / 16) (by omega)
  have hlow := hexValue?_digitChar (n % 16) (by omega)
  have hvalue : 16 * (n / 16) + n % 16 = n := Nat.div_add_mod n 16
  simp [readHex, hzero, hhigh, hlow, hvalue]

lemma EscapedAs.readStringChar {c : Char} {piece : List Char} (h : EscapedAs c piece)
    (rest : List Char) : readStringChar (piece ++ rest) = .ok (some c, rest) := by
  cases h with
  | itself h =>
    simp only [NeedsEscape, not_or] at h
    rw [List.singleton_append, Json.readStringChar, if_neg h.2.2]
    · exact h.1
    · exact fun hc => absurd hc h.2.1
    · exact fun _ hc => absurd hc h.2.1
    · exact fun _ _ hc => absurd hc h.2.1
  | @letter e h he =>
    have hu : e ≠ 'u' := by
      rintro rfl
      cases he
    simp [Json.readStringChar, he]
  | codePoint h hnone =>
    have hlow : isLowSurrogate c.toNat = false := by simp [isLowSurrogate]; omega
    have hhigh : isHighSurrogate c.toNat = false := by simp [isHighSurrogate]; omega
    simp [Json.readStringChar, readCodePoint, readHex_codePoint h, hlow, hhigh, Except.map]

lemma readString_of_readStringChar {c : Char} {cs rest : List Char}
    (h : readStringChar cs = .ok (some c, rest)) :
    readString cs = (readString rest).map fun (text, left) => (c :: text, left) := by
  rw [readString]
  split <;> simp_all

/-- Escaped characters are read as what they were. -/
lemma readString_flatten {cs : List Char} {pieces : List (List Char)}
    (h : List.Forall₂ EscapedAs cs pieces) (rest : List Char) :
    readString (pieces.flatten ++ '"' :: rest) = .ok (cs, rest) := by
  induction h with
  | nil =>
    have hclose : Json.readStringChar ('"' :: rest) = .ok (none, rest) := rfl
    rw [List.flatten_nil, List.nil_append, readString]
    split <;> simp_all
  | @cons c piece cs pieces hc _ ih =>
    rw [List.flatten_cons, List.append_assoc,
      readString_of_readStringChar (hc.readStringChar _), ih]
    rfl

lemma readValue_quote (depth : Nat) (rest : List Char) :
    readValue depth ('"' :: rest) =
      (readString rest).map fun (text, left) => (.string (String.ofList text), left) := by
  rw [readValue.eq_def]
  rfl

/-- A literal of the data format holds the text that it was written for. -/
theorem parse_of_isLiteralOf {s source : String} (h : IsLiteralOf s.toList source.toList) :
    Json.parse source = .ok (.string s) := by
  obtain ⟨pieces, hpieces, hsource⟩ := h
  rw [Json.parse, hsource, readWhole?, readValue_quote, readString_flatten hpieces []]
  simp [Except.map, skipSpace]

/-! ### The statement of a path -/

/-- What the bundler assigns a static path to. -/
def pathTarget : String := "__webpack_require__.p"

lemma isTarget_pathTarget : IsTarget pathTarget.toList := by
  have hscan : scanTarget 0 pathTarget.toList = .ok (pathTarget.toList, []) := by decide +kernel
  exact (isTarget_of_scanTarget hscan).1

lemma source_publicPath (path : String) :
    String.ofList (simpleParts [] pathTarget.toList [' '] [' '] (literal path.toList) []).source =
      (RuntimeModule.publicPath path).code := by
  rw [← String.toList_inj]
  simp [simpleParts, Parts.source, Parts.expression, RuntimeModule.publicPath, stringLiteral,
    String.toList_append, pathTarget]

lemma assignment_publicPath (path : String) :
    (simpleParts [] pathTarget.toList [' '] [' '] (literal path.toList) []).assignment =
      ⟨pathTarget, stringLiteral path, ⟨0, 21⟩, ⟨24, 24 + byteLength (literal path.toList)⟩⟩ := by
  have htarget : byteLength pathTarget.toList = 21 := by decide
  have hspace : byteLength [' '] = 1 := rfl
  have hstop : 23 + (1 + byteLength (literal path.toList)) =
      24 + byteLength (literal path.toList) := by
    omega
  simp only [simpleParts, Parts.assignment, Parts.valueOffset, byteLength_append, byteLength_nil,
    htarget, hspace, hstop, String.ofList_toList, stringLiteral, Nat.zero_add, Nat.reduceAdd]

lemma assignTo_pathTarget (c : InitializerCall) : c.assignTo pathTarget =
    "__webpack_require__.p = " ++ c.initializer ++ "(" ++ singleQuoted c.entryName ++ ");" := by
  rw [← String.toList_inj]
  simp [InitializerCall.assignTo, InitializerCall.text, pathTarget, String.toList_append]

/-- The statement of a public path is read as the assignment of its literal, whatever the path. The
literal holds the path, and what a replacement puts in its place does not depend on it. -/
theorem parse_publicPath (path : String) :
    Assignment.parse (RuntimeModule.publicPath path).code =
        .ok ⟨"__webpack_require__.p", stringLiteral path, ⟨0, 21⟩,
          ⟨24, 24 + byteLength (stringLiteral path).toList⟩⟩ ∧
      IsLiteralOf path.toList (stringLiteral path).toList ∧
      Json.parse (stringLiteral path) = .ok (.string path) ∧
      ∀ c : InitializerCall, c.replace (RuntimeModule.publicPath path).code =
        .ok ("__webpack_require__.p = " ++ c.initializer ++ "(" ++ singleQuoted c.entryName ++
          ");") := by
  have hspace : Blanks [' '] := blanks_singleton rfl
  have hliteral : IsLiteralOf path.toList (stringLiteral path).toList := by
    rw [stringLiteral, String.toList_ofList]
    exact isLiteralOf_literal path.toList
  obtain ⟨body, hbody, htext⟩ := hliteral.exists_body
  rw [stringLiteral, String.toList_ofList] at htext
  have hpasses : Passes WantsOperand (literal path.toList) (fun _ => True) EndsOperand :=
    htext ▸ passes_quoted rfl hbody
  have htrimmed : IsTrimmed (literal path.toList) :=
    htext ▸ isTrimmed_enclosed (by decide) (by decide) (by decide) body
  have hparse := parse_simpleParts blanks_nil hspace hspace blanks_nil isTarget_pathTarget htrimmed
    hpasses trivial
  rw [source_publicPath, assignment_publicPath] at hparse
  refine ⟨?_, hliteral, parse_of_isLiteralOf hliteral, fun c => ?_⟩
  · rw [hparse, stringLiteral, String.toList_ofList]
    rfl
  · rw [replace_of_parse hparse, ← assignTo_pathTarget]

end PublicPath.Proofs
