import PublicPath.Decimal.Nearest
import PublicPath.Json.Basic
import PublicPath.Text.Shown

/-!
# What a plain scalar stands for

A plain scalar may be null, a truth value, an integer in one of four bases or a decimal; any other
one is a text. Digits behind a leading zero are a text as well.
-/

namespace PublicPath.Yaml

open Decimal (twoTo)

/-- The rest of a text behind a given front. -/
def behind? : List Char → List Char → Option (List Char)
  | [], cs => some cs
  | x :: front, c :: cs => if c = x then behind? front cs else none
  | _ :: _, [] => none

def isNull (s : String) : Bool := s = "null" || s = "Null" || s = "NULL" || s = "~"

def bool? (s : String) : Option Bool :=
  if s = "true" || s = "True" || s = "TRUE" then some true
  else if s = "false" || s = "False" || s = "FALSE" then some false
  else none

/-- The value of a digit of bases up to sixteen. -/
def digitOf? (base : Nat) (c : Char) : Option Nat :=
  let n :=
    if c.isDigit then some (c.toNat - '0'.toNat)
    else if 'a' ≤ c ∧ c ≤ 'f' then some (c.toNat - 'a'.toNat + 10)
    else if 'A' ≤ c ∧ c ≤ 'F' then some (c.toNat - 'A'.toNat + 10)
    else none
  n.filter (· < base)

/-- A nonempty run of digits. -/
def digits? (base : Nat) (cs : List Char) : Option Nat :=
  if cs = [] then none
  else cs.foldl (fun n c => n.bind fun n => (digitOf? base c).map (base * n + ·)) (some 0)

def dropSign : List Char → List Char
  | '-' :: cs | '+' :: cs => cs
  | cs => cs

/-- Digits that are no number because of a leading zero. -/
def isZeroPadded (cs : List Char) : Bool :=
  match dropSign cs with
  | '0' :: rest => rest ≠ [] && rest.all Char.isDigit
  | _ => false

/-- The marks of bases, and the bases. -/
def bases : List (List Char × Nat) :=
  [(['0', 'x'], 16), (['0', 'o'], 8), (['0', 'b'], 2)]

/-- A nonnegative integer of a limited size. One that is too large in a marked base is no integer of
another one. -/
def natural? (limit : Nat) (cs : List Char) : Option Nat :=
  let bare := match cs with
    | '+' :: rest => rest
    | cs => cs
  let marked := bases.findSome? fun (front, base) =>
    (behind? front bare).bind fun rest => (digits? base rest).filter (· < limit)
  match marked with
  | some n => some n
  | none => if isZeroPadded cs then none else (digits? 10 bare).filter (· < limit)

/-- The size of a negative integer, at most `limit`. -/
def negative? (limit : Nat) (cs : List Char) : Option Nat :=
  match cs with
  | '-' :: rest =>
    let marked := bases.findSome? fun (front, base) =>
      (behind? front rest).bind fun rest => (digits? base rest).filter (· ≤ limit)
    match marked with
    | some n => some n
    | none => if isZeroPadded cs then none else (digits? 10 rest).filter (· ≤ limit)
  | _ => none

/-- An integer; `none` inside for one that has more than 64 bits but no more than 128. -/
def integer? (cs : List Char) : Option (Option Int) :=
  match natural? (twoTo 64) cs, negative? (twoTo 63) cs with
  | some n, _ => some (some n)
  | none, some n => some (some (-n))
  | none, none =>
    if (natural? (twoTo 128) cs).isSome || (negative? (twoTo 127) cs).isSome then some none
    else none

/-- The digits of a decimal and its power of ten: digits with at most one point, and an exponent. -/
def decimal? (cs : List Char) : Option (Nat × Int) :=
  let whole := cs.takeWhile Char.isDigit
  let (fraction, rest) := match cs.drop whole.length with
    | '.' :: rest => (rest.takeWhile Char.isDigit, rest.dropWhile Char.isDigit)
    | rest => ([], rest)
  let mantissa := digits? 10 (whole ++ fraction)
  let shifted (e : Int) := mantissa.map fun m => (m, e - fraction.length)
  match rest with
  | [] => shifted 0
  | 'e' :: '-' :: more | 'E' :: '-' :: more => (digits? 10 more).bind fun e => shifted (-e)
  | 'e' :: '+' :: more | 'E' :: '+' :: more => (digits? 10 more).bind fun e => shifted e
  | 'e' :: more | 'E' :: more => (digits? 10 more).bind fun e => shifted e
  | _ => none

/-- A double: infinite, not a number, or the one nearest to a decimal if that is finite. -/
def float? (cs : List Char) : Option Float :=
  let s := String.ofList cs
  let (signed, bare) := match cs with
    | '+' :: rest => (true, rest)
    | cs => (false, cs)
  let bareText := String.ofList bare
  if bareText = ".inf" ∨ bareText = ".Inf" ∨ bareText = ".INF" then some (1 / 0)
  else if s = "-.inf" ∨ s = "-.Inf" ∨ s = "-.INF" then some (-1 / 0)
  else if s = ".nan" ∨ s = ".NaN" ∨ s = ".NAN" then some (0 / 0)
  else
    let (negative, size) := match bare with
      | '-' :: rest => (true, rest)
      | rest => (false, rest)
    if signed && (negative || bare.head? = some '+') then none
    else (decimal? size).bind fun (m, e) =>
      let x := Decimal.nearest m e
      if x.isInf then none else some (if negative then -x else x)

/-- A double as a generic value; there is none for infinity and the like. -/
def ofFloat (x : Float) : Json := if x.isFinite then .number (.real x) else .null

/-- The message for an integer that no generic value holds. -/
def outOfRange : String := "JSON number out of range"

/-- The value of a plain scalar without a tag. -/
def plainValue (s : String) : Except String Json :=
  let cs := s.toList
  if s = "" || isNull s then .ok .null
  else match bool? s with
    | some b => .ok (.bool b)
    | none =>
      match integer? cs with
      | some (some n) => .ok (.number (.integer n))
      | some none => .error outOfRange
      | none =>
        match if isZeroPadded cs then none else float? cs with
        | some x => .ok (ofFloat x)
        | none => .ok (.string s)

/-- The value of a scalar with one of the tags of the core schema; any other tag makes a text. -/
def taggedValue (tag s : String) : Except String Json :=
  let wrong (what : String) : Except String Json :=
    .error s!"invalid value: string {Text.shownText s}, expected {what}"
  if tag = "tag:yaml.org,2002:bool" then
    match bool? s with
    | some b => .ok (.bool b)
    | none => wrong "a boolean"
  else if tag = "tag:yaml.org,2002:int" then
    match integer? s.toList with
    | some (some n) => .ok (.number (.integer n))
    | some none => .error outOfRange
    | none => wrong "an integer"
  else if tag = "tag:yaml.org,2002:float" then
    match float? s.toList with
    | some x => .ok (ofFloat x)
    | none => wrong "a float"
  else if tag = "tag:yaml.org,2002:null" then
    if isNull s then .ok .null else wrong "null"
  else .ok (.string s)

end PublicPath.Yaml
