import PublicPath.Decimal.Nearest

/-!
# The shortest decimal that reads back

A double is written with the fewest digits among which the nearest decimal rounds to it again. The
search runs over the grids of one to seventeen digits in exact arithmetic.
-/

namespace PublicPath

/-- The positive number `digits · 10 ^ exponent`. -/
structure Decimal where
  digits : Nat
  exponent : Int
deriving DecidableEq, Repr

namespace Decimal

/-- Mantissa and power of two of a finite double, its sign left out. -/
def binaryParts (bits : UInt64) : Nat × Int :=
  let field : Nat := bits.toNat / twoTo 52 % 2048
  let fraction : Nat := bits.toNat % twoTo 52
  if field = 0 then (fraction, -1074) else (fraction + twoTo 52, (field : Int) - 1075)

/-- A double and the numbers that round to it, as multiples of `1 / den`. -/
structure RoundingInterval where
  low : Nat
  value : Nat
  high : Nat
  den : Nat
  /-- Whether the two ends round to the double as well. -/
  closed : Bool

/-- Below a power of two the doubles lie twice as close. -/
def roundingInterval (m : Nat) (q : Int) : RoundingInterval :=
  let below := if m = twoTo 52 ∧ -1074 < q then 1 else 2
  let scale := twoTo (q - 2).toNat
  { low := (4 * m - below) * scale
    value := 4 * m * scale
    high := (4 * m + 2) * scale
    den := twoTo (2 - q).toNat
    closed := m % 2 = 0 }

/-- Whether `d · 10 ^ k` rounds to the double. -/
def RoundingInterval.holds (i : RoundingInterval) (d : Nat) (k : Int) : Bool :=
  let point := d * tenTo k.toNat * i.den
  let unit := tenTo (-k).toNat
  if i.closed then i.low * unit ≤ point && point ≤ i.high * unit
  else i.low * unit < point && point < i.high * unit

/-- The nearest number of the grid `10 ^ k` that rounds to the double; of two equally near ones the
even one. -/
def RoundingInterval.onGrid (i : RoundingInterval) (k : Int) : Option Decimal :=
  let num := i.value * tenTo (-k).toNat
  let unit := i.den * tenTo k.toNat
  let d := num / unit
  let down := i.holds d k
  let up := i.holds (d + 1) k
  let rest := num % unit
  if down && up then
    if 2 * rest < unit || (2 * rest = unit && d % 2 = 0) then some ⟨d, k⟩ else some ⟨d + 1, k⟩
  else if down then some ⟨d, k⟩
  else if up then some ⟨d + 1, k⟩
  else none

/-- The exponent of the first digit. -/
def RoundingInterval.leadingExponent (i : RoundingInterval) : Int :=
  (Nat.toDigits 10 (i.value * tenTo 400 / i.den)).length - 401

/-- The shortest decimal of a positive finite double, given by its bits. -/
def shortest (bits : UInt64) : Decimal :=
  let (m, q) := binaryParts bits
  let i := roundingInterval m q
  let e := i.leadingExponent
  ((List.range 17).findSome? fun (n : Nat) => i.onGrid (e - n)).getD ⟨0, 0⟩

/-- How a decimal is laid out. -/
structure Layout where
  /-- The first digit's exponents that are written without an exponent part. -/
  lowest : Int
  highest : Int

/-- Without an exponent a decimal point always stands between two digits; an exponent has a sign and
no leading zeros. -/
def Layout.write (l : Layout) (x : Decimal) : String :=
  let all := Nat.toDigits 10 x.digits
  let lead : Int := x.exponent + all.length - 1
  let digits := (all.reverse.dropWhile (· = '0')).reverse
  let parts : List Char :=
    if l.lowest ≤ lead ∧ lead ≤ l.highest then
      if lead < 0 then '0' :: '.' :: (List.replicate (-lead - 1).toNat '0' ++ digits)
      else
        let whole := lead.toNat + 1
        let fraction := digits.drop whole
        digits.take whole ++ List.replicate (whole - digits.length) '0' ++
          '.' :: (if fraction = [] then ['0'] else fraction)
    else
      let exponent := Nat.toDigits 10 lead.natAbs
      digits.take 1 ++ (if digits.length ≤ 1 then [] else '.' :: digits.drop 1) ++
        'e' :: (if lead < 0 then '-' else '+') :: exponent
  String.ofList parts

/-- The text of a finite double. -/
def Layout.writeFloat (l : Layout) (x : Float) : String :=
  let bits := x.toBits
  let sign := if bits.toNat / twoTo 63 = 1 then "-" else ""
  let size := bits &&& 0x7fffffffffffffff
  sign ++ (if size = 0 then "0.0" else l.write (shortest size))

end Decimal

end PublicPath
