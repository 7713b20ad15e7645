/-!
# Single-precision helpers

Angles are held in degrees as binary32 values and converted to radians with one rounded
multiplication by the binary32 nearest to `π / 180`, computed as the binary32 `π` divided by
180; radians go back with the binary32 nearest to `180 / π`.

`Single.rem` is the remainder of truncating division, `x - trunc (x / y) * y`, computed
exactly: the result is always representable, so it is obtained from the integer significands
and converted without rounding.
-/

namespace EngineSdk.Single

/-- The binary32 value nearest to `π`. -/
def pi : Float32 := Float32.ofBits 0x40490FDB

/-- The binary32 quiet NaN. -/
def nan : Float32 := Float32.ofBits 0x7FC00000

/-- The gap between 1 and the next binary32 value, `2 ^ -23`. -/
def epsilon : Float32 := Float32.ofBits 0x34000000

/-- Radians per degree: the binary32 `π` divided by 180, rounded once. -/
def radiansPerDegree : Float32 := pi / 180

/-- Degrees per radian: the binary32 value nearest to `180 / π`. -/
def degreesPerRadian : Float32 := Float32.ofBits 0x42652EE1

/-- Degrees to radians. -/
def toRadians (x : Float32) : Float32 := x * radiansPerDegree

/-- Radians to degrees. -/
def toDegrees (x : Float32) : Float32 := x * degreesPerRadian

/-- Sign, integer significand and exponent of a finite binary32 value:
`(-1) ^ sign * mant * 2 ^ exp`. -/
def decode (x : Float32) : Bool × Nat × Int :=
  let b := x.toBits.toNat
  let biased := (b >>> 23) % 256
  let frac := b % Nat.pow 2 23
  let sign := b >>> 31 == 1
  if biased = 0 then (sign, frac, -149) else (sign, frac + Nat.pow 2 23, (biased : Int) - 150)

/-- The remainder of `x` by `y` with the quotient truncated toward zero; it has the sign of `x`.
NaN when `x` is infinite, `y` is zero or either is NaN; `x` itself when `y` is infinite. -/
def rem (x y : Float32) : Float32 :=
  if x.isNaN || y.isNaN || x.isInf || y == 0 then nan
  else if y.isInf then x
  else
    let (sx, mx, ex) := decode x
    let (_, my, ey) := decode y
    let e := min ex ey
    let r := (mx * Nat.pow 2 (ex - e).toNat) % (my * Nat.pow 2 (ey - e).toNat)
    let mag := (Float.scaleB (Float.ofNat r) e).toFloat32
    if sx then -mag else mag

/-- The integer part of a finite value, rounded toward zero. -/
def truncate (x : Float32) : Int :=
  let (s, m, e) := decode x
  let mag : Nat := if 0 ≤ e then m * Nat.pow 2 e.toNat else m / Nat.pow 2 (-e).toNat
  if s then -(mag : Int) else mag

/-- A value as a 32-bit signed integer: rounded toward zero and clamped to the range; NaN is
zero. -/
def toInt32Clamped (x : Float32) : Int :=
  if x.isNaN then 0
  else if x.isInf then (if x > 0 then (Nat.pow 2 31 : Int) - 1 else -(Nat.pow 2 31 : Int))
  else max (-(Nat.pow 2 31 : Int)) (min ((Nat.pow 2 31 : Int) - 1) (truncate x))

/-- A 32-bit signed integer as the nearest binary32 value. -/
def ofInt32 (i : Int) : Float32 := (Float.ofInt i).toFloat32

end EngineSdk.Single
