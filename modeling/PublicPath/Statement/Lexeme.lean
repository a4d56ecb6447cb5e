import PublicPath.Text.Alphabetic
import PublicPath.Text.Numeric

/-!
# Lexemes of script code

Only what hides other characters matters for finding the end of a statement: comments, quoted
literals and regular expressions. Every scanner takes a text and returns the part it takes and the
part that follows; `next_append` says that the two together are the text.
-/

namespace PublicPath.Statement

open Text

def isIdentifierStart (c : Char) : Bool :=
  isAlphabetic c || c == '_' || c == '$'

def isIdentifierPart (c : Char) : Bool :=
  isAlphabetic c || isNumeric c || c == '_' || c == '$'

def isQuote (c : Char) : Bool :=
  c == '"' || c == '\'' || c == '`'

/-- Whether a slash after `c` starts a regular expression and is no division. -/
def startsOperand (c : Char) : Bool :=
  "=(,[!&|?:;+-*/%<>~^".toList.contains c || c == '\x7b' || c == '\x7d'

/-- A literal from behind its opening quote through its closing one. A backslash escapes the
character after it, and only a template may hold a raw line feed. -/
def closeQuoted (q : Char) : List Char → Option (List Char × List Char)
  | [] => none
  | ['\\'] => none
  | '\\' :: c :: rest => (closeQuoted q rest).map fun (taken, left) => ('\\' :: c :: taken, left)
  | c :: rest =>
    if c = q then some ([c], rest)
    else if c = '\n' ∧ q ≠ '`' then none
    else (closeQuoted q rest).map fun (taken, left) => (c :: taken, left)

/-- Whether a character class is open after `c`. -/
def classAfter (inClass : Bool) (c : Char) : Bool :=
  c == '[' || (inClass && c != ']')

/-- The body of a regular expression from behind its opening slash through the closing one. A slash
inside a character class closes nothing. -/
def closeRegex (inClass : Bool) : List Char → Option (List Char × List Char)
  | [] => none
  | ['\\'] => none
  | '\\' :: c :: rest =>
    (closeRegex inClass rest).map fun (taken, left) => ('\\' :: c :: taken, left)
  | c :: rest =>
    if c = '/' ∧ inClass = false then some ([c], rest)
    else if c = '\n' then none
    else (closeRegex (classAfter inClass c) rest).map fun (taken, left) => (c :: taken, left)

/-- A block comment from behind its opening through its end. -/
def closeBlock : List Char → Option (List Char × List Char)
  | [] => none
  | '*' :: '/' :: rest => some (['*', '/'], rest)
  | c :: rest => (closeBlock rest).map fun (taken, left) => (c :: taken, left)

/-- What a text has to say about a comment at its front. -/
inductive Comment where
  | absent
  | unclosed
  | closed (text rest : List Char)

/-- A line comment ends before the next line feed, a block comment behind its end mark. -/
def Comment.read : List Char → Comment
  | '/' :: '/' :: rest =>
    .closed ('/' :: '/' :: rest.takeWhile (· ≠ '\n')) (rest.dropWhile (· ≠ '\n'))
  | '/' :: '*' :: rest =>
    match closeBlock rest with
    | some (taken, left) => .closed ('/' :: '*' :: taken) left
    | none => .unclosed
  | _ => .absent

/-- A piece of a value. -/
inductive Lexeme where
  | comment (text : List Char)
  | blank (c : Char)
  | quoted (quote : Char) (text : List Char)
  | regex (text : List Char)
  | mark (c : Char)
deriving DecidableEq, Repr

/-- The characters of a lexeme, as written. -/
def Lexeme.text : Lexeme → List Char
  | comment text | quoted _ text | regex text => text
  | blank c | mark c => [c]

/-- The lexeme at `c`, with `rest` behind it. `last` is the last character that tells a regular
expression from a division. A literal that never ends is named by what opens it. -/
def Lexeme.next (last c : Char) (rest : List Char) : Except Char (Lexeme × List Char) :=
  match Comment.read (c :: rest) with
  | .closed text left => .ok (.comment text, left)
  | .unclosed => .error '*'
  | .absent =>
    if isBlank c then .ok (.blank c, rest)
    else if c = '/' ∧ startsOperand last then
      match closeRegex false rest with
      | some (taken, left) =>
        .ok (.regex ('/' :: (taken ++ left.takeWhile isIdentifierPart)),
          left.dropWhile isIdentifierPart)
      | none => .error '/'
    else if isQuote c then
      match closeQuoted c rest with
      | some (taken, left) => .ok (.quoted c (c :: taken), left)
      | none => .error c
    else .ok (.mark c, rest)

theorem closeQuoted_append {q : Char} {cs taken left : List Char}
    (h : closeQuoted q cs = some (taken, left)) : taken ++ left = cs := by
  fun_induction closeQuoted q cs generalizing taken with
  | case1 => simp at h
  | case2 => simp at h
  | case3 c rest ih =>
    simp only [Option.map_eq_some_iff, Prod.mk.injEq, Prod.exists] at h
    obtain ⟨t, l, h, rfl, rfl⟩ := h
    simp [ih h]
  | case4 => grind
  | case5 => simp at h
  | case6 c rest _ _ _ _ ih =>
    simp only [Option.map_eq_some_iff, Prod.mk.injEq, Prod.exists] at h
    obtain ⟨t, l, h, rfl, rfl⟩ := h
    simp [ih h]

theorem closeRegex_append {inClass : Bool} {cs taken left : List Char}
    (h : closeRegex inClass cs = some (taken, left)) : taken ++ left = cs := by
  fun_induction closeRegex inClass cs generalizing taken with
  | case1 => simp at h
  | case2 => simp at h
  | case3 _ c rest ih =>
    simp only [Option.map_eq_some_iff, Prod.mk.injEq, Prod.exists] at h
    obtain ⟨t, l, h, rfl, rfl⟩ := h
    simp [ih h]
  | case4 => grind
  | case5 => simp at h
  | case6 _ c rest _ _ _ _ ih =>
    simp only [Option.map_eq_some_iff, Prod.mk.injEq, Prod.exists] at h
    obtain ⟨t, l, h, rfl, rfl⟩ := h
    simp [ih h]

theorem closeBlock_append {cs taken left : List Char}
    (h : closeBlock cs = some (taken, left)) : taken ++ left = cs := by
  fun_induction closeBlock cs generalizing taken with
  | case1 => simp at h
  | case2 => grind
  | case3 c rest _ ih =>
    simp only [Option.map_eq_some_iff, Prod.mk.injEq, Prod.exists] at h
    obtain ⟨t, l, h, rfl, rfl⟩ := h
    simp [ih h]

theorem Comment.read_append {cs text rest : List Char} (h : Comment.read cs = .closed text rest) :
    text ++ rest = cs := by
  unfold Comment.read at h
  split at h
  · cases h
    simp [List.takeWhile_append_dropWhile]
  · split at h
    · rename_i hb
      cases h
      simp [closeBlock_append hb]
    · cases h
  · cases h

theorem Comment.text_ne_nil {cs text rest : List Char} (h : Comment.read cs = .closed text rest) :
    text ≠ [] := by
  unfold Comment.read at h
  split at h
  · cases h
    simp
  · split at h <;> cases h
    simp
  · cases h

/-- A lexeme and what follows it are the text. -/
theorem next_append {last c : Char} {rest left : List Char} {x : Lexeme}
    (h : Lexeme.next last c rest = .ok (x, left)) : x.text ++ left = c :: rest := by
  unfold Lexeme.next at h
  split at h
  · rename_i hc
    cases h
    exact Comment.read_append hc
  · cases h
  · split at h
    · cases h
      rfl
    split at h
    · split at h
      · rename_i hs _ _ _ hr
        cases h
        simp [Lexeme.text, hs.1, List.takeWhile_append_dropWhile, closeRegex_append hr]
      · cases h
    split at h
    · split at h
      · rename_i hq
        cases h
        simp [Lexeme.text, closeQuoted_append hq]
      · cases h
    · cases h
      rfl

theorem next_text_ne_nil {last c : Char} {rest left : List Char} {x : Lexeme}
    (h : Lexeme.next last c rest = .ok (x, left)) : x.text ≠ [] := by
  unfold Lexeme.next at h
  split at h
  · rename_i hc
    cases h
    exact Comment.text_ne_nil hc
  · cases h
  · repeat' split at h
    all_goals first
      | cases h; simp [Lexeme.text]
      | cases h

/-- Every lexeme takes at least one character. -/
theorem next_length_lt {last c : Char} {rest left : List Char} {x : Lexeme}
    (h : Lexeme.next last c rest = .ok (x, left)) : left.length < (c :: rest).length := by
  rw [← next_append h, List.length_append]
  have := List.length_pos_iff.2 (next_text_ne_nil h)
  omega

end PublicPath.Statement
