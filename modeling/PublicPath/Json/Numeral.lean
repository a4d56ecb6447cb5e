import PublicPath.Decimal.Nearest
import PublicPath.Decimal.Shortest
import PublicPath.Json.Basic
import PublicPath.Json.Fault

/-!
# Numbers

An integer of 64 bits is read exactly. Every other number is a double: the leading digits that fit
into 64 bits, scaled by a power of ten in one multiplication or division.
-/

namespace PublicPath.Json

/-- The leading digits of a number, and how many digits were added and left out. -/
structure Significand where
  value : Nat
  added : Nat
  omitted : Nat

/-- Adds digits as long as the value stays below `2 ^ 64`. -/
def absorb (value : Nat) : List Char → Significand
  | [] => ⟨value, 0, 0⟩
  | c :: cs =>
    let next := value * 10 + (c.toNat - '0'.toNat)
    if next < Decimal.twoTo 64 then
      let more := absorb next cs
      { more with added := more.added + 1 }
    else ⟨value, 0, cs.length + 1⟩

/-- The double `value · 10 ^ exponent`, or none beyond the largest one. -/
def scaled? (value : Nat) (exponent : Int) : Option Float :=
  let x := Float.ofBits (Decimal.nearestBits value 1)
  let power (n : Nat) := Decimal.nearest 1 n
  if value = 0 then some 0
  else if 308 < exponent then none
  else if 0 ≤ exponent then
    let y := x * power exponent.toNat
    if y.isInf then none else some y
  else if -308 ≤ exponent then some (x / power exponent.natAbs)
  else if -616 ≤ exponent then some (x / power 308 / power (exponent + 308).natAbs)
  else some 0

/-- A nonempty run of digits. -/
def readDigits (cs : List Char) : Except Fault (List Char × List Char) :=
  if cs.takeWhile Char.isDigit = [] then .error (Fault.at cs)
  else .ok (cs.takeWhile Char.isDigit, cs.dropWhile Char.isDigit)

/-- The digits before the point: a zero alone, or digits without a zero in front. -/
def readWhole (cs : List Char) : Except Fault (List Char × List Char) :=
  match readDigits cs with
  | .error e => .error e
  | .ok (digits, rest) =>
    if digits.head? = some '0' ∧ digits.length ≠ 1 then .error ⟨.malformed, cs.length - 1⟩
    else .ok (digits, rest)

/-- The digits behind a point, none where no point stands. -/
def readFraction : List Char → Except Fault (Option (List Char) × List Char)
  | '.' :: rest => (readDigits rest).map fun (digits, rest) => (some digits, rest)
  | cs => .ok (none, cs)

/-- The exponent part, none where there is none. -/
def readExponent : List Char → Except Fault (Option Int × List Char)
  | c :: rest =>
    if c = 'e' ∨ c = 'E' then
      let value (digits : List Char) : Nat := digits.foldl (fun n d => n * 10 + (d.toNat - 48)) 0
      match rest with
      | '-' :: rest => (readDigits rest).map fun (digits, rest) => (some (-value digits), rest)
      | '+' :: rest => (readDigits rest).map fun (digits, rest) => (some (value digits : Int), rest)
      | rest => (readDigits rest).map fun (digits, rest) => (some (value digits : Int), rest)
    else .ok (none, c :: rest)
  | [] => .ok (none, [])

/-- The number of its parts, or none beyond the largest double. A negative zero and a negative
integer below the 64 bits are doubles. -/
def assemble (negative : Bool) (whole : List Char) (fraction : Option (List Char))
    (exponent : Option Int) : Option Number :=
  let leading := absorb 0 whole
  let real (value : Nat) (e : Int) : Option Number :=
    (scaled? value e).map fun x => .real (if negative then -x else x)
  if fraction.isNone && exponent.isNone && leading.omitted = 0 then
    if !negative then some (.integer leading.value)
    else if 0 < leading.value && leading.value ≤ Decimal.twoTo 63 then some (.integer (-leading.value))
    else real leading.value 0
  else
    let all := absorb leading.value (fraction.getD [])
    real all.value (leading.omitted - all.added + exponent.getD 0)

/-- A number, sign included. -/
def readNumber (cs : List Char) : Except Fault (Number × List Char) := do
  let (negative, start) := match cs with
    | '-' :: rest => (true, rest)
    | cs => (false, cs)
  let (whole, rest) ← readWhole start
  let (fraction, rest) ← readFraction rest
  let (exponent, rest) ← readExponent rest
  match assemble negative whole fraction exponent with
  | some n => return (n, rest)
  | none => throw ⟨.malformed, rest.length⟩

/-- Doubles with their first digit between `10 ^ -5` and `10 ^ 15` have no exponent. -/
def realLayout : Decimal.Layout := ⟨-5, 15⟩

def Number.write : Number → String
  | integer n => toString n
  | real x => realLayout.writeFloat x

end PublicPath.Json
