/-!
# Aborts

Some operations of the SDK stop the whole call instead of returning an error value: an index
past the end of a fixed-size array, an integer sum that leaves its type, or an explicit abort
with a message.  `Panic` names these causes; `Panic.message` gives the text reported for each.
-/

namespace EngineSdk

/-- Why an operation stopped the call. -/
inductive Panic where
  /-- An index at or past the end of a sequence of length `len`. -/
  | indexOutOfBounds (len index : Nat)
  /-- An addition whose exact sum does not fit its integer type. -/
  | addOverflow
  /-- An abort with a message of its own. -/
  | abort (text : String)
deriving Repr, DecidableEq

/-- The text reported for an abort. -/
def Panic.message : Panic → String
  | .indexOutOfBounds len index =>
    "index out of bounds: the len is " ++ Nat.repr len ++ " but the index is " ++ Nat.repr index
  | .addOverflow => "attempt to add with overflow"
  | .abort text => text

/-- The sum of two integers of a `bits`-wide signed type, or `addOverflow` when it leaves the
type. -/
def Panic.addSigned (bits : Nat) (a b : Int) : Except Panic Int :=
  let s := a + b
  if s < -(Nat.pow 2 (bits - 1) : Int) ∨ s ≥ (Nat.pow 2 (bits - 1) : Int) then .error .addOverflow else .ok s

/-- The sum of two numbers of a `bits`-wide unsigned type, or `addOverflow` when it leaves the
type. -/
def Panic.addUnsigned (bits : Nat) (a b : Nat) : Except Panic Nat :=
  if a + b ≥ Nat.pow 2 bits then .error .addOverflow else .ok (a + b)

/-- How an operation that has errors of its own can fail: with one of them, or by stopping. -/
inductive Failure (ε : Type) where
  | error (e : ε)
  | panic (p : Panic)
deriving Repr, DecidableEq

end EngineSdk
