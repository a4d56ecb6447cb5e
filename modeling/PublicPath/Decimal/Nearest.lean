/-!
# The double nearest to a decimal

A decimal `m · 10 ^ e` is rounded once, in exact arithmetic, to the nearest double; of two equally
near doubles the one with an even last bit is taken.
-/

namespace PublicPath.Decimal

def twoTo (n : Nat) : Nat := Nat.pow 2 n

def tenTo (n : Nat) : Nat := Nat.pow 10 n

/-- The quotient rounded to the nearest number, a half to the even one. -/
def roundDiv (num den : Nat) : Nat :=
  let q := num / den
  let r := num % den
  if 2 * r < den then q else if den < 2 * r then q + 1 else q + q % 2

/-- The bits of the double nearest to `num / den`; beyond the largest double, those of infinity. -/
def nearestBits (num den : Nat) : UInt64 :=
  if num = 0 then 0
  else
    let size : Int := num.log2 - den.log2
    let size := if den * twoTo size.toNat ≤ num * twoTo (-size).toNat then size else size - 1
    let place := max (size - 52) (-1074)
    let mantissa := roundDiv (num * twoTo (-place).toNat) (den * twoTo place.toNat)
    let bits := (place + 1074).toNat * twoTo 52 + mantissa
    UInt64.ofNat (min bits (0x7ff * twoTo 52))

/-- The double nearest to `m · 10 ^ e`. Exponents that leave the range of doubles for every `m` below
`10 ^ 800` are not expanded. -/
def nearest (m : Nat) (e : Int) : Float :=
  if m = 0 || e + (Nat.toDigits 10 m).length < -400 then 0
  else if 400 < e then Float.ofBits 0x7ff0000000000000
  else Float.ofBits (nearestBits (m * tenTo e.toNat) (tenTo (-e).toNat))

end PublicPath.Decimal
