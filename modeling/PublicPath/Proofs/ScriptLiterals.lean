import PublicPath.Json.StringLiteral
import PublicPath.Proofs.LineComments

/-!
# Script literals

`readLiteral` reads a single-quoted literal as the script language defines it in strict code: a list
of UTF-16 code units, where a backslash starts an escape or joins two lines. What is quoted for a
script is read as it was, whatever text follows, and no line ends inside it.
-/

namespace PublicPath.Proofs
open Text Statement Json

/-- The UTF-16 code units of a code point. -/
def codeUnits (n : Nat) : List Nat :=
  if n < 0x10000 then [n]
  else [0xd800 + (n - 0x10000) / 0x400, 0xdc00 + (n - 0x10000) % 0x400]

/-- The control characters that letters stand for behind a backslash. -/
def controlEscape? : Char → Option Char
  | 'b' => some '\x08'
  | 't' => some '\t'
  | 'n' => some '\n'
  | 'v' => some '\x0b'
  | 'f' => some '\x0c'
  | 'r' => some '\r'
  | _ => none

/-- The number that hexadecimal digits write. -/
def hexNumber? (cs : List Char) : Option Nat :=
  if cs = [] then none else (cs.mapM hexValue?).map (·.foldl (16 * · + ·) 0)

/-- The code unit that so many digits write, and the text behind them. -/
def readDigits (count : Nat) (cs : List Char) : Option (List Nat × List Char) :=
  if cs.length < count then none
  else (hexNumber? (cs.take count)).map fun n => ([n], cs.drop count)

/-- The code units of a code point in braces, from behind the opening one. -/
def readBraced (cs : List Char) : Option (List Nat × List Char) :=
  match cs.dropWhile (· ≠ '\x7d') with
  | [] => none
  | _ :: left =>
    (hexNumber? (cs.takeWhile (· ≠ '\x7d'))).bind fun n =>
      if n ≤ 0x10ffff then some (codeUnits n, left) else none

/-- What an escape stands for, from behind its backslash, and the text behind it. -/
def readEscape : List Char → Option (List Nat × List Char)
  | [] => none
  | 'x' :: rest => readDigits 2 rest
  | 'u' :: '\x7b' :: rest => readBraced rest
  | 'u' :: rest => readDigits 4 rest
  | '0' :: rest => if rest.head?.any Char.isDigit then none else some ([0], rest)
  | '\r' :: '\n' :: rest => some ([], rest)
  | c :: rest =>
    if c ∈ lineTerminators then some ([], rest)
    else if c.isDigit then none
    else some (codeUnits ((controlEscape? c).getD c).toNat, rest)

lemma readDigits_length_le {count : Nat} {cs left : List Char} {units : List Nat}
    (h : readDigits count cs = some (units, left)) : left.length ≤ cs.length := by
  unfold readDigits at h
  split at h
  · cases h
  · obtain ⟨n, -, hn⟩ := Option.map_eq_some_iff.mp h
    cases hn
    simp

lemma readBraced_length_le {cs left : List Char} {units : List Nat}
    (h : readBraced cs = some (units, left)) : left.length ≤ cs.length := by
  unfold readBraced at h
  have hle := (List.dropWhile_sublist (· ≠ '\x7d') (l := cs)).length_le
  split at h
  · cases h
  · rename_i hd
    obtain ⟨n, -, hn⟩ := Option.bind_eq_some_iff.mp h
    split at hn <;> cases hn
    rw [hd, List.length_cons] at hle
    omega

lemma readEscape_length_lt {cs left : List Char} {units : List Nat}
    (h : readEscape cs = some (units, left)) : left.length < cs.length := by
  unfold readEscape at h
  split at h
  · cases h
  · have := readDigits_length_le h
    simp only [List.length_cons]
    omega
  · have := readBraced_length_le h
    simp only [List.length_cons]
    omega
  · have := readDigits_length_le h
    simp only [List.length_cons]
    omega
  · split at h <;> cases h
    simp
  · cases h
    simp only [List.length_cons]
    omega
  · repeat' split at h
    all_goals cases h
    all_goals simp

/-- The code units of a literal, from behind its opening quote, and the text behind it. -/
def readUnits (cs : List Char) : Option (List Nat × List Char) :=
  match cs with
  | [] => none
  | '\'' :: rest => some ([], rest)
  | '\\' :: rest =>
    match h : readEscape rest with
    | none => none
    | some (units, left) =>
      have := readEscape_length_lt h
      (readUnits left).map fun (more, left) => (units ++ more, left)
  | c :: rest =>
    if c = '\n' ∨ c = '\r' then none
    else (readUnits rest).map fun (more, left) => (codeUnits c.toNat ++ more, left)
termination_by cs.length
decreasing_by all_goals simp only [List.length_cons]; omega

/-- Reads the literal at the front of a text. -/
def readLiteral : List Char → Option (List Nat × List Char)
  | '\'' :: rest => readUnits rest
  | _ => none

example : readLiteral "'\\x41\\u{1f600}\\v\\\r\n\\q\\0'.".toList =
    some ([0x41, 0xd83d, 0xde00, 0x0b, 0x71, 0], ['.']) := by
  decide +kernel

/-- The code units of a text. -/
def unitsOf (s : String) : List Nat := s.toList.flatMap fun c => codeUnits c.toNat

/-! ### Code units -/

/-- No character is half of a pair. -/
lemma not_surrogate (c : Char) : c.toNat < 0xd800 ∨ 0xdfff < c.toNat ∧ c.toNat < 0x110000 := by
  have hvalid := c.valid
  simp only [UInt32.isValidChar, Nat.isValidChar] at hvalid
  change c.val.toNat < _ ∨ _ < c.val.toNat ∧ c.val.toNat < _
  omega

lemma codeUnits_ne_nil (n : Nat) : codeUnits n ≠ [] := by
  unfold codeUnits
  split <;> simp

lemma codeUnits_append_inj {c d : Char} {us vs : List Nat}
    (h : codeUnits c.toNat ++ us = codeUnits d.toNat ++ vs) : c = d ∧ us = vs := by
  have hc := not_surrogate c
  have hd := not_surrogate d
  unfold codeUnits at h
  split_ifs at h <;> simp only [List.cons_append, List.nil_append, List.cons.injEq] at h
  · exact ⟨Char.toNat_inj.mp h.1, h.2⟩
  -- one unit in front of one text and a pair in front of the other
  · have := h.1
    omega
  · have := h.1
    omega
  · obtain ⟨hhigh, hlow, h⟩ := h
    exact ⟨Char.toNat_inj.mp (by omega), h⟩

/-- The code units tell the text. -/
theorem unitsOf_injective : Function.Injective unitsOf := by
  intro s t h
  rw [← String.toList_inj]
  unfold unitsOf at h
  generalize s.toList = cs at h
  generalize t.toList = ds at h
  induction cs generalizing ds with
  | nil =>
    cases ds with
    | nil => rfl
    | cons d ds => simp [codeUnits_ne_nil] at h
  | cons c cs ih =>
    cases ds with
    | nil => simp [codeUnits_ne_nil] at h
    | cons d ds =>
      obtain ⟨rfl, hrest⟩ := codeUnits_append_inj h
      rw [ih ds hrest]

/-! ### Quoted texts -/

lemma readUnits_escape {cs left : List Char} {units : List Nat}
    (h : readEscape cs = some (units, left)) : readUnits ('\\' :: cs) =
      (readUnits left).map fun (more, left) => (units ++ more, left) := by
  rw [readUnits]
  split <;> simp_all

lemma readUnits_itself {c : Char} (hq : c ≠ '\'') (hs : c ≠ '\\') (hn : c ≠ '\n') (hr : c ≠ '\r')
    (rest : List Char) : readUnits (c :: rest) =
      (readUnits rest).map fun (more, left) => (codeUnits c.toNat ++ more, left) := by
  rw [readUnits]
  · rw [if_neg (by tauto)]
  · exact hq
  · exact hs

lemma readUnits_quoteEscape (c : Char) (rest : List Char) : readUnits (quoteEscape c ++ rest) =
    (readUnits rest).map fun (more, left) => (codeUnits c.toNat ++ more, left) := by
  unfold quoteEscape
  split
  · exact readUnits_escape rfl
  · exact readUnits_escape rfl
  · exact readUnits_escape rfl
  · exact readUnits_escape rfl
  · exact readUnits_escape rfl
  · exact readUnits_escape rfl
  · rename_i hs hq hn hr _ _
    exact readUnits_itself hq hs hn hr rest

lemma readUnits_flatMap (cs rest : List Char) :
    readUnits (cs.flatMap quoteEscape ++ '\'' :: rest) =
      some (cs.flatMap fun c => codeUnits c.toNat, rest) := by
  induction cs with
  | nil =>
    rw [List.flatMap_nil, List.nil_append, readUnits]
    rfl
  | cons c cs ih =>
    rw [List.flatMap_cons, List.append_assoc, readUnits_quoteEscape, ih]
    rfl

lemma notMem_quoteEscape (c : Char) : ∀ l ∈ lineTerminators, l ∉ quoteEscape c := by
  unfold quoteEscape
  split
  · simp [lineTerminators]
  · simp [lineTerminators]
  · simp [lineTerminators]
  · simp [lineTerminators]
  · simp [lineTerminators]
  · simp [lineTerminators]
  · rename_i hn hr hl hp
    intro l hline hc
    rw [List.mem_singleton.mp hc] at hline
    simp only [lineTerminators, List.mem_cons, List.not_mem_nil, or_false] at hline
    tauto

/-- A literal stays on one line. -/
lemma disjoint_quote (cs : List Char) : lineTerminators.Disjoint (quote cs) := by
  intro l hline hl
  simp only [quote, List.mem_cons, List.mem_append, List.mem_flatMap, List.not_mem_nil,
    or_false] at hl
  have hquote : l ≠ '\'' := by
    rintro rfl
    exact absurd hline (by decide)
  obtain ⟨c, -, hc⟩ := (hl.resolve_left hquote).resolve_right hquote
  exact notMem_quoteEscape c l hline hc

/-- A text that is quoted for a script is read as it was, so that no two texts are quoted alike. It
stays on one line, and the scanner of script code finds the end of its literal where it is, whatever
text follows. -/
theorem singleQuoted_readsBack (v : String) (t : List Char) :
    readLiteral ((singleQuoted v).toList ++ t) = some (unitsOf v, t) ∧
      (∀ w, singleQuoted w = singleQuoted v ↔ w = v) ∧
      lineTerminators.Disjoint (singleQuoted v).toList ∧
      ∃ body, (singleQuoted v).toList = '\'' :: body ∧
        closeQuoted '\'' (body ++ t) = some (body, t) ∧
        ∀ last, Lexeme.next last '\'' (body ++ t) = .ok (.quoted '\'' ('\'' :: body), t) := by
  have hread : ∀ (w : String) (rest : List Char),
      readLiteral ((singleQuoted w).toList ++ rest) = some (unitsOf w, rest) := by
    intro w rest
    rw [singleQuoted, String.toList_ofList, quote, List.cons_append, List.append_assoc]
    exact readUnits_flatMap w.toList rest
  have hbody : QuotedBody '\'' (v.toList.flatMap quoteEscape) := quotedBody_flatMap_quoteEscape _
  have hscan := closeQuoted_body (by decide) hbody t
  refine ⟨hread v t, fun w => ⟨fun h => ?_, fun h => by rw [h]⟩, ?_, ?_⟩
  · have hw := hread w []
    rw [h, hread v []] at hw
    exact unitsOf_injective (congrArg Prod.fst (Option.some.inj hw)).symm
  · rw [singleQuoted, String.toList_ofList]
    exact disjoint_quote v.toList
  · refine ⟨v.toList.flatMap quoteEscape ++ ['\''], String.toList_ofList, ?_, fun last => ?_⟩
    · rw [List.append_assoc]
      exact hscan
    · have hlexeme : IsLexeme last t
          (.quoted '\'' ('\'' :: (v.toList.flatMap quoteEscape ++ ['\'']))) := .quoted rfl hbody
      obtain ⟨c, rest, htext, hnext⟩ := next_of_isLexeme hlexeme
      obtain ⟨rfl, rfl⟩ := List.cons.inj htext
      exact hnext

end PublicPath.Proofs
