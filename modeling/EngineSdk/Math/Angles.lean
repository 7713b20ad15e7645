import EngineSdk.Math.Vec

/-!
# View angles

`Angles` are Euler angles in degrees: pitch (positive looks down), yaw (about the vertical axis)
and roll.  `Angles.basis` gives the forward, right and up directions of a view, and
`Angles.ofDirection` the pitch and yaw that look along a direction; both work in binary32 with
the engine's order of operations.

`wrapDegrees` brings an angle into `(-180, 180]`: the remainder by 360 with the sign of the
angle, then one correction by 360.
-/

namespace EngineSdk

/-- Euler angles in degrees. -/
structure Angles where
  pitch : Float32
  yaw : Float32
  roll : Float32

namespace Angles

/-- The three angles as a vector `(pitch, yaw, roll)`. -/
def toVec (a : Angles) : Vec 3 := Vec.mk3 a.pitch a.yaw a.roll

/-- Angles from a vector `(pitch, yaw, roll)`. -/
def ofVec (v : Vec 3) : Angles := ⟨v.x, v.y, v.z⟩

/-- The zero angles. -/
def zero : Angles := ⟨0, 0, 0⟩

/-- Equality of all three angles as numbers. -/
def beq (a b : Angles) : Bool := a.pitch == b.pitch && a.yaw == b.yaw && a.roll == b.roll

/-- The forward, right and up directions of a view:
forward `(cp cy, cp sy, -sp)`, right `(-sr sp cy + cr sy, -sr sp sy - cr cy, -sr cp)` and
up `(cr sp cy + sr sy, cr sp sy - sr cy, cr cp)`, with `s` and `c` the sine and cosine of pitch,
yaw and roll in radians. -/
def basis (a : Angles) : Vec 3 × Vec 3 × Vec 3 :=
  let p := Single.toRadians a.pitch
  let y := Single.toRadians a.yaw
  let r := Single.toRadians a.roll
  let sp := p.sin
  let cp := p.cos
  let sy := y.sin
  let cy := y.cos
  let sr := r.sin
  let cr := r.cos
  let forward := Vec.mk3 (cp * cy) (cp * sy) (-sp)
  let right := Vec.mk3 (-sr * sp * cy + cr * sy) (-sr * sp * sy - cr * cy) (-sr * cp)
  let up := Vec.mk3 (cr * sp * cy + sr * sy) (cr * sp * sy - sr * cy) (cr * cp)
  (forward, right, up)

/-- The forward direction of a view. -/
def forward (a : Angles) : Vec 3 := a.basis.1

/-- An angle in degrees shifted by a full turn when it is negative. -/
def positiveDegrees (d : Float32) : Float32 := if d < 0 then d + 360 else d

/-- The angles that look along `v`, with roll zero.  Straight up or down (no horizontal part)
gives pitch 270 when `z > 0` and 90 otherwise, and yaw 0; else yaw is the direction of `(x, y)`
and pitch that of `(sqrt (x * x + y * y), -z)`, both in degrees made non-negative. -/
def ofDirection (v : Vec 3) : Angles :=
  if v.x == 0 && v.y == 0 then
    ⟨if v.z > 0 then 270 else 90, 0, 0⟩
  else
    let yaw := positiveDegrees (Single.toDegrees (Float32.atan2 v.y v.x))
    let flat := (v.x * v.x + v.y * v.y).sqrt
    let pitch := positiveDegrees (Single.toDegrees (Float32.atan2 (-v.z) flat))
    ⟨pitch, yaw, 0⟩

end Angles

/-- An angle in degrees brought into `(-180, 180]`. -/
def wrapDegrees (x : Float32) : Float32 :=
  let a := Single.rem x 360
  if a > 180 then a - 360 else if a ≤ -180 then a + 360 else a

/-- Each of the three angles brought into `(-180, 180]`. -/
def Angles.normalized (a : Angles) : Angles :=
  ⟨wrapDegrees a.pitch, wrapDegrees a.yaw, wrapDegrees a.roll⟩

end EngineSdk
