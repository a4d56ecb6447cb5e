import PublicPath.Yaml.Cursor
import PublicPath.Yaml.Scalar

/-!
# Writing block mappings

A text is written plain where it reads back as the same text, else in single quotes, and in double
quotes where only escapes can express it. A text of several lines is a literal scalar if the form
allows it.
-/

namespace PublicPath.Yaml

/-- What a member of a written mapping holds. -/
inductive Written where
  | text (s : String)
  | flag (b : Bool)
  | mapping (members : List (String × Written))

/-! ## Which form a text takes -/

/-- The characters that need no escape. -/
def isUnescaped (c : Char) : Bool :=
  let n := c.toNat
  n = 0x0a || (0x20 ≤ n && n ≤ 0x7e) || (0xa0 ≤ n && n ≤ 0xd7ff) ||
    (0xe000 ≤ n && n ≤ 0xfffd && n ≠ 0xfeff) || 0x10000 ≤ n

/-- Blank, a line break or the end of the text. -/
def isSeparator (c : Option Char) : Bool := isGap c || c == some '\x00'

/-- Whether two characters of two classes stand side by side. -/
def hasPair (p q : Char → Bool) : List Char → Bool
  | x :: y :: rest => (p x && q y) || hasPair p q (y :: rest)
  | _ => false

/-- Whether a colon or a number sign would end a plain text after its first character. -/
def hasIndicator : List Char → Bool
  | x :: y :: rest =>
    (y == ':' && isSeparator rest.head?) || (y == '#' && isSeparator (some x)) ||
      hasIndicator (y :: rest)
  | _ => false

/-- Whether the first characters mean something else than a plain text. -/
def startsIndicator (cs : List Char) : Bool :=
  cs.take 3 = ['-', '-', '-'] || cs.take 3 = ['.', '.', '.'] ||
    match cs with
    | [] => false
    | x :: rest =>
      "#,[]&*!|>'\"%@\x7b\x7d\x60".toList.contains x ||
        ((x == '?' || x == ':' || x == '-') && isSeparator rest.head?)

def isSpace (c : Char) : Bool := c == ' '

/-- Whether a text can stand inside its line without quotes. -/
def allowsPlain (cs : List Char) : Bool :=
  cs.all (fun c => isUnescaped c && !isBreak c) && !startsIndicator cs && !hasIndicator cs &&
    cs.head? != some ' ' && cs.getLast? != some ' '

/-- Whether single quotes keep a text as it is. -/
def allowsSingle (cs : List Char) : Bool :=
  cs.all isUnescaped && !hasPair isBreak isSpace cs && !hasPair isSpace isBreak cs

/-- Whether a literal scalar keeps a text as it is. -/
def allowsLiteral (cs : List Char) : Bool :=
  cs ≠ [] && cs.all isUnescaped && !hasPair isSpace isBreak cs && cs.getLast? != some ' '

/-- Whether a plain scalar reads back as the text that was written. -/
def readsBack (s : String) : Bool :=
  match plainValue s with
  | .ok (.string _) => !isZeroPadded s.toList
  | _ => false

/-! ## The forms -/

def indentation (width : Nat) : List Char := List.replicate width ' '

/-- A text in single quotes; a line that follows a break is indented. -/
def singleQuotedLines (width : Nat) : Bool → List Char → List Char
  | _, [] => []
  | broken, c :: cs =>
    if isBreak c then
      (if !broken && c = '\n' then ['\n', '\n'] else [c]) ++ singleQuotedLines width true cs
    else
      (if broken then indentation width else []) ++ (if c = '\'' then ['\'', '\''] else [c]) ++
        singleQuotedLines width false cs

def singleQuotedForm (width : Nat) (cs : List Char) : List Char :=
  let broken := cs.getLast?.any isBreak
  '\'' :: (singleQuotedLines width false cs ++ (if broken then indentation width else []) ++ ['\''])

/-- The letter behind a backslash that stands for a character. -/
def escapeLetter? (c : Char) : Option Char :=
  match c with
  | '\x00' => some '0'
  | '\x07' => some 'a'
  | '\x08' => some 'b'
  | '\t' => some 't'
  | '\n' => some 'n'
  | '\x0b' => some 'v'
  | '\x0c' => some 'f'
  | '\r' => some 'r'
  | '\x1b' => some 'e'
  | '"' => some '"'
  | '\\' => some '\\'
  | '\u0085' => some 'N'
  | '\u00a0' => some '_'
  | '\u2028' => some 'L'
  | '\u2029' => some 'P'
  | _ => none

/-- So many hexadecimal digits, upper case. -/
def hexPadded (width n : Nat) : List Char :=
  let digits := (Nat.toDigits 16 n).map Char.toUpper
  List.replicate (width - digits.length) '0' ++ digits

def doubleQuotedChar (c : Char) : List Char :=
  if isUnescaped c && !isBreak c && c != '"' && c != '\\' then [c]
  else match escapeLetter? c with
    | some letter => ['\\', letter]
    | none =>
      if c.toNat ≤ 0xff then '\\' :: 'x' :: hexPadded 2 c.toNat
      else '\\' :: 'u' :: hexPadded 4 c.toNat

def doubleQuotedForm (cs : List Char) : List Char :=
  '"' :: (cs.flatMap doubleQuotedChar ++ ['"'])

/-- The lines of a literal scalar, each one indented unless it is empty. -/
def literalLines (width : Nat) : Bool → List Char → List Char
  | _, [] => []
  | fresh, c :: cs =>
    if isBreak c then c :: literalLines width true cs
    else (if fresh then indentation width else []) ++ c :: literalLines width false cs

/-- What a literal scalar tells of its first line and of its end. -/
def literalHeader (cs : List Char) : List Char :=
  let indent := if cs.head?.any fun c => isSpace c || isBreak c then ['2'] else []
  let chomping := match cs.reverse with
    | [] => ['-']
    | last :: before =>
      if !isBreak last then ['-']
      else if before.head?.all isBreak then ['+']
      else []
  '|' :: (indent ++ chomping)

def literalForm (width : Nat) (cs : List Char) : List Char :=
  let lines := literalLines width true cs
  literalHeader cs ++ '\n' :: (lines ++ (if cs.getLast?.any isBreak then [] else ['\n']))

/-- A text behind its key, with the end of its line. -/
def writeText (width : Nat) (s : String) : List Char :=
  let cs := s.toList
  let line (form : List Char) := ' ' :: (form ++ ['\n'])
  if cs.contains '\n' then
    if allowsLiteral cs then ' ' :: literalForm width cs else line (doubleQuotedForm cs)
  else if readsBack s && allowsPlain cs then line cs
  else if allowsSingle cs then line (singleQuotedForm width cs)
  else line (doubleQuotedForm cs)

mutual

/-- A value behind its key, in a mapping that is indented by `width`. -/
def Written.write (width : Nat) : Written → List Char
  | .text s => writeText (width + 2) s
  | .flag b => if b then " true\n".toList else " false\n".toList
  | .mapping members => '\n' :: writeMembers (width + 2) members

/-- The lines of a mapping. -/
def writeMembers (width : Nat) : List (String × Written) → List Char
  | [] => []
  | (key, value) :: rest =>
    indentation width ++ key.toList ++ ':' :: (value.write width ++ writeMembers width rest)

end

end PublicPath.Yaml
