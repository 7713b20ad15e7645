/-!
# Shortest decimal digits of a binary64 or binary32 value

A finite binary64 value stands for the interval of reals that round to it under
round-to-nearest, ties to even: from halfway to the value below to halfway to the value above,
both ends included exactly when the significand is even.  `Binary.shortest` picks, among the
decimals in that interval, one with the fewest significant digits and, among those, the one
nearest to the value; an exact tie goes to the even digit string.

All arithmetic is exact on natural numbers: a decimal `a * 10 ^ i` is compared with a bound
`n * 2 ^ j` by cross-multiplication, so no floating-point operation is involved in the choice.
-/

namespace EngineSdk.Decimal

/-- A finite non-negative binary64 magnitude `mant * 2 ^ exp`. -/
structure Binary where
  /-- The integer significand. -/
  mant : Nat
  /-- The weight of the last significand bit. -/
  exp : Int
  /-- The value below is half as far away as the value above: `mant` is a power of two. -/
  narrowBelow : Bool
deriving Repr, DecidableEq

/-- The magnitude of a finite binary64 bit pattern; the sign bit is ignored. -/
def Binary.ofBits (bits : UInt64) : Binary :=
  let biased := ((bits >>> 52) &&& 0x7FF).toNat
  let frac := (bits &&& 0xFFFFFFFFFFFFF).toNat
  if biased = 0 then
    { mant := frac, exp := -1074, narrowBelow := false }
  else
    { mant := Nat.pow 2 52 + frac, exp := (biased : Int) - 1075, narrowBelow := frac = 0 && biased > 1 }

/-- The magnitude of a finite binary32 bit pattern; the sign bit is ignored. -/
def Binary.ofBits32 (bits : UInt32) : Binary :=
  let biased := ((bits >>> 23) &&& 0xFF).toNat
  let frac := (bits &&& 0x7FFFFF).toNat
  if biased = 0 then
    { mant := frac, exp := -149, narrowBelow := false }
  else
    { mant := Nat.pow 2 23 + frac, exp := (biased : Int) - 150, narrowBelow := frac = 0 && biased > 1 }

/-- A decimal `digits * 10 ^ exp`. -/
structure Dec where
  digits : Nat
  exp : Int
deriving Repr, DecidableEq

/-- Compares `a * 10 ^ i` with `n * 2 ^ j`, exactly. -/
def compareScaled (a : Nat) (i : Int) (n : Nat) (j : Int) : Ordering :=
  compare (a * Nat.pow 10 i.toNat * Nat.pow 2 (-j).toNat)
    (n * Nat.pow 2 j.toNat * Nat.pow 10 (-i).toNat)

/-- `d` lies among the reals that round to `x`.  The ends are `(4 mant - 2) * 2 ^ (exp - 2)`
(or `4 mant - 1` below a power of two) and `(4 mant + 2) * 2 ^ (exp - 2)`. -/
def Binary.admits (x : Binary) (d : Dec) : Bool :=
  let lo := if x.narrowBelow then 4 * x.mant - 1 else 4 * x.mant - 2
  let hi := 4 * x.mant + 2
  let closed := x.mant % 2 == 0
  let cl := compareScaled d.digits d.exp lo (x.exp - 2)
  let ch := compareScaled d.digits d.exp hi (x.exp - 2)
  (cl == .gt || (closed && cl == .eq)) && (ch == .lt || (closed && ch == .eq))

/-- The exponent `k` with `10 ^ k ≤ x < 10 ^ (k + 1)`, for a non-zero `x`.  The estimate from the
binary logarithm (`78913 / 2 ^ 18` is just below `log 2 / log 10`) is off by at most one, and
the exact comparisons settle it. -/
def Binary.leadExp (x : Binary) : Int :=
  let est := ((Nat.log2 x.mant : Int) + x.exp) * 78913 / 262144
  let fits (k : Int) : Bool :=
    compareScaled 1 k x.mant x.exp != .gt && compareScaled 1 (k + 1) x.mant x.exp == .gt
  ([est - 1, est, est + 1, est + 2].find? fits).getD est

/-- Moves trailing zeros of the digits into the exponent; the value is unchanged. -/
def Dec.trim (d : Dec) : Dec :=
  if _h : d.digits ≠ 0 ∧ d.digits % 10 = 0 then
    Dec.trim { digits := d.digits / 10, exp := d.exp + 1 }
  else d
termination_by d.digits
decreasing_by exact Nat.div_lt_self (Nat.pos_of_ne_zero _h.1) (by decide)

/-- The exact decimal value of `x`: `mant * 2 ^ exp` written as digits and a power of ten. -/
def Binary.exact (x : Binary) : Dec :=
  if x.exp ≥ 0 then { digits := x.mant * Nat.pow 2 x.exp.toNat, exp := 0 }
  else { digits := x.mant * Nat.pow 5 (-x.exp).toNat, exp := x.exp }

/-- The decimals with `n` significant digits nearest to `x` that lie in its interval: of the two
neighbours of `x` on the grid `10 ^ (leadExp - n + 1)`, those admitted, the nearer first.  When
both are admitted and equally near, the even one comes first. -/
def Binary.candidates (x : Binary) (n : Nat) : List Dec :=
  let g := x.leadExp - n + 1
  let num := x.mant * Nat.pow 2 x.exp.toNat * Nat.pow 10 (-g).toNat
  let den := Nat.pow 2 (-x.exp).toNat * Nat.pow 10 g.toNat
  let below : Dec := { digits := num / den, exp := g }
  let above : Dec := { digits := num / den + 1, exp := g }
  let twice := 2 * num
  let mid := (2 * (num / den) + 1) * den
  let belowFirst := twice < mid || (twice == mid && (num / den) % 2 == 0)
  let ordered := if belowFirst then [below, above] else [above, below]
  ordered.filter x.admits

/-- The shortest admitted decimal nearest to `x`, with trailing zeros moved into the exponent.
Zero gives `0 * 10 ^ 0`.  Seventeen digits always suffice for binary64; the exact value stands
behind the search so that the function is total without that fact. -/
def Binary.shortest (x : Binary) : Dec :=
  if x.mant = 0 then { digits := 0, exp := 0 }
  else
    match (List.range 17).findSome? (fun i => (x.candidates (i + 1)).head?) with
    | some d => d.trim
    | none => x.exact.trim

end EngineSdk.Decimal
