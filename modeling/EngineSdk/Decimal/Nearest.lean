/-!
# Reading a decimal as a binary64 value

`nearest m e` is the binary64 value nearest to `m · 10 ^ e`, ties going to the even
significand, and infinity when the value lies beyond the largest finite one after rounding.
The computation is exact: the decimal is the fraction `num / den` of two natural numbers, the
binary exponent `k` is chosen so that `num / (den · 2 ^ k)` has 53 bits (or `k` is the least
exponent, for subnormal values), and the quotient is rounded once by its remainder.

Decimals whose magnitude is far outside the binary64 range are settled without arithmetic:
at least `10 ^ 310` is infinite, below `10 ^ -345` is zero.
-/

namespace EngineSdk.Decimal

/-- Compares `num` with `den · 2 ^ k`. -/
def compareScaledPow (num den : Nat) (k : Int) : Ordering :=
  if 0 ≤ k then compare num (den <<< k.toNat) else compare (num <<< (-k).toNat) den

/-- The floor of the base-2 logarithm of `num / den`, for positive `num` and `den`. -/
def log2Ratio (num den : Nat) : Int :=
  let t : Int := (num.log2 : Int) - den.log2
  if compareScaledPow num den t != .lt then t else t - 1

/-- The bits of the binary64 value nearest to `num / den`, for positive `num` and `den`. -/
def nearestBits (num den : Nat) : UInt64 :=
  let k := max (log2Ratio num den - 52) (-1074)
  let (divisor, dividend) := if 0 ≤ k then (den <<< k.toNat, num) else (den, num <<< (-k).toNat)
  let q := dividend / divisor
  let r := dividend % divisor
  let q := match compare (2 * r) divisor with
    | .gt => q + 1
    | .eq => if q % 2 = 1 then q + 1 else q
    | .lt => q
  let (q, k) := if q = Nat.pow 2 53 then (Nat.pow 2 52, k + 1) else (q, k)
  if q < Nat.pow 2 52 then q.toUInt64
  else
    let field := k + 1075
    if 2047 ≤ field then 0x7FF0000000000000
    else ((field.toNat <<< 52) + (q - Nat.pow 2 52)).toUInt64

/-- The binary64 value nearest to `m · 10 ^ e`. -/
def nearest (m : Nat) (e : Int) : Float :=
  if m = 0 then 0.0
  else
    let magnitude := e + (Nat.toDigits 10 m).length
    if 310 < magnitude then Float.ofBits 0x7FF0000000000000
    else if magnitude < -345 then 0.0
    else if 0 ≤ e then Float.ofBits (nearestBits (m * Nat.pow 10 e.toNat) 1)
    else Float.ofBits (nearestBits m (Nat.pow 10 (-e).toNat))

end EngineSdk.Decimal
