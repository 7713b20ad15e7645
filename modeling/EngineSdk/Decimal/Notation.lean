import EngineSdk.Decimal.Shortest

/-!
# Writing a binary64 value as text

`Notation` records the decisions of a number format that are not about which digits to write:
the range of leading-digit exponents written positionally, and the texts of NaN and infinity.
`Notation.layout` places the point in a selected decimal; `Notation.render` adds the sign and the
special values to the shortest digits of `Binary.shortest`.

A positional number always shows a point and at least one digit on each side (`12.0`, `0.001`);
a number outside the range is written `d.ddde-7` or `de16`, without padding, and with a plus
sign before a non-negative exponent when the format asks for one (`de+16`).
-/

namespace EngineSdk.Decimal

/-- The layout decisions of a number format. -/
structure Notation where
  /-- The least leading-digit exponent written positionally. -/
  plainFrom : Int
  /-- The least leading-digit exponent written with an exponent again, above the range. -/
  plainBelow : Int
  /-- The text of a NaN. -/
  nan : String
  /-- The text of positive infinity; negative infinity has a minus sign before it. -/
  inf : String
  /-- A non-negative exponent is written with a plus sign. -/
  plusSign : Bool := false

/-- A run of `n` zero digits. -/
def zeros (n : Nat) : String :=
  String.ofList (List.replicate n '0')

/-- The decimal text of an integer, with a minus sign when negative. -/
def intText (i : Int) : String :=
  if i < 0 then "-" ++ Nat.repr i.natAbs else Nat.repr i.toNat

/-- The exponent part of a number written with one, after its `e`. -/
def Notation.exponentText (fmt : Notation) (e : Int) : String :=
  if fmt.plusSign && 0 ≤ e then "+" ++ intText e else intText e

/-- Places the point in `d`, which has no trailing zeros; zero is `0.0`. -/
def Notation.layout (fmt : Notation) (d : Dec) : String :=
  if d.digits = 0 then "0.0"
  else
    let s := Nat.repr d.digits
    let len : Int := s.length
    let lead := len + d.exp - 1
    if fmt.plainFrom ≤ lead ∧ lead < fmt.plainBelow then
      if 0 ≤ d.exp then s ++ zeros d.exp.toNat ++ ".0"
      else if 0 ≤ lead then
        let cut := (lead + 1).toNat
        String.ofList (s.toList.take cut) ++ "." ++ String.ofList (s.toList.drop cut)
      else "0." ++ zeros (-lead - 1).toNat ++ s
    else if s.length = 1 then s ++ "e" ++ fmt.exponentText lead
    else
      String.ofList (s.toList.take 1) ++ "." ++ String.ofList (s.toList.drop 1) ++ "e" ++
        fmt.exponentText lead

/-- The text of a binary64 value: the special texts, or a sign and the shortest digits that
read back, laid out by `fmt`.  Negative zero keeps its sign. -/
def Notation.render (fmt : Notation) (x : Float) : String :=
  if x.isNaN then fmt.nan
  else
    let sign := if x.toBits >>> 63 == 1 then "-" else ""
    if x.isInf then sign ++ fmt.inf
    else sign ++ fmt.layout (Binary.ofBits x.toBits).shortest

/-- The text of a binary32 value, as `render` writes binary64 values: the shortest digits are
those that read back as the binary32 value. -/
def Notation.render32 (fmt : Notation) (x : Float32) : String :=
  if x.isNaN then fmt.nan
  else
    let sign := if x.toBits >>> 31 == 1 then "-" else ""
    if x.isInf then sign ++ fmt.inf
    else sign ++ fmt.layout (Binary.ofBits32 x.toBits).shortest

/-- Debug notation: positional from `1e-4` up to `1e16`, exponents outside. -/
def debugNotation : Notation where
  plainFrom := -4
  plainBelow := 16
  nan := "NaN"
  inf := "inf"

end EngineSdk.Decimal
