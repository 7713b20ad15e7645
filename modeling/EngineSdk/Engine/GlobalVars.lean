import EngineSdk.Math.Single

/-!
# The engine's global variables

The engine keeps its clock and a few counts in one block of global variables, which the SDK
reads through a pointer it is handed.  Besides reading the fields, the SDK converts between
ticks and seconds with the tick interval:

* `ticksToTime` multiplies the interval by the tick count, in binary32;
* `timeToTicks` divides the time by the interval, adds one half and rounds toward zero, clamped
  to 32 bits (NaN giving zero); with an interval that is not positive it is zero.
-/

namespace EngineSdk

/-- The engine's global variables. -/
structure GlobalVars where
  realtime : Float32
  frameCount : Int
  absoluteFrameTime : Float32
  curtime : Float32
  frameTime : Float32
  maxClients : Int
  tickCount : Int
  intervalPerTick : Float32
  interpolationAmount : Float32
  simTicksThisFrame : Int
  networkProtocol : Int
  isClient : Bool

namespace GlobalVars

/-- Every field zero or false. -/
def zero : GlobalVars := ⟨0, 0, 0, 0, 0, 0, 0, 0, 0, 0, 0, false⟩

/-- The time `ticks` ticks take. -/
def ticksToTime (g : GlobalVars) (ticks : Int) : Float32 :=
  g.intervalPerTick * Single.ofInt32 ticks

/-- The tick a time falls in, counting from the nearest tick boundary. -/
def timeToTicks (g : GlobalVars) (time : Float32) : Int :=
  if g.intervalPerTick ≤ 0 then 0 else Single.toInt32Clamped (0.5 + time / g.intervalPerTick)

end GlobalVars

end EngineSdk
