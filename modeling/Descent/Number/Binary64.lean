import Descent.Number.Decimal

/-!
# Rounding to binary floating point

The double-precision number nearest to a decimal numeral, computed exactly: the quotient is scaled
by a power of two so that its integer part has 53 digits in base two, or fewer for the smallest
numbers, and is then rounded to nearest, a tie to even. What is too large becomes infinity.
-/

namespace Descent.Number

/-- The quotient rounded to the nearest integer, and a tie to the even one. -/
def roundDiv (num den : Nat) : Nat :=
  let q := num / den
  let r := num % den
  if den < 2 * r || 2 * r == den && q % 2 == 1 then q + 1 else q

/-- The greatest `e` with `2 ^ e ≤ num / den`. -/
def floorLog2 (num den : Nat) : Int :=
  let e : Int := Nat.log2 num - Nat.log2 den
  if den <<< e.toNat ≤ num <<< (-e).toNat then e else e - 1

namespace Binary64

/-- The bit that makes a number negative. -/
def signBit : Nat := 0x8000000000000000

/-- The bits of infinity. -/
def infinity : Nat := 0x7FF0000000000000

/-- The bits of the number nearest to a quotient. A number `m * 2 ^ q` with `q ≥ -1074` and
`m < 2 ^ 53`, with `m ≥ 2 ^ 52` unless `q` is the least exponent, has the bits
`(q + 1074) * 2 ^ 52 + m`, and so has the next power of two when `m` is rounded up to `2 ^ 53`. -/
def nearest (num den : Nat) : Nat :=
  if num == 0 then 0
  else
    let q := max (floorLog2 num den - 52) (-1074)
    let m := roundDiv (num <<< (-q).toNat) (den <<< q.toNat)
    min ((q + 1074).toNat <<< 52 + m) infinity

/-- The bits of the number nearest to a decimal numeral. -/
def ofDecimal (d : Decimal) : UInt64 :=
  let magnitude := nearest d.coefficient (Nat.pow 10 d.places)
  UInt64.ofNat (if d.negative then signBit + magnitude else magnitude)

end Binary64

end Descent.Number
