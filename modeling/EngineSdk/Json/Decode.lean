import EngineSdk.Json.Reader

/-!
# Typed reading of JSON values

Reading a JSON value as a string, an integer of a given range or an optional value either
succeeds or says what was found and what was expected: `invalid type` when the kind is wrong,
`invalid value` when an integer is out of range, `invalid length` when an array is too short
or too long for a record.  A value is named by its kind and, for a scalar, its text.
-/

namespace EngineSdk.Json

/-- How a value of the wrong kind is named in an error. -/
def unexpected : Json → String
  | .null => "null"
  | .bool b => "boolean `" ++ (if b then "true" else "false") ++ "`"
  | .num n => describeNumber n
  | .str s => "string " ++ Text.debugQuote s
  | .arr _ => "sequence"
  | .obj _ => "map"

/-- A value of the wrong kind. -/
def invalidType (j : Json) (expected : String) : String :=
  "invalid type: " ++ j.unexpected ++ ", expected " ++ expected

/-- A value of the right kind but out of range. -/
def invalidValue (found expected : String) : String :=
  "invalid value: " ++ found ++ ", expected " ++ expected

/-- An array of the wrong length for a record. -/
def invalidLength (n : Nat) (expected : String) : String :=
  "invalid length " ++ Nat.repr n ++ ", expected " ++ expected

/-- A string. -/
def asString (j : Json) : Except String String :=
  match j with
  | .str s => .ok s
  | _ => .error (invalidType j "a string")

/-- `none` for null, otherwise what `f` reads. -/
def asOption {α : Type} (f : Json → Except String α) (j : Json) : Except String (Option α) :=
  match j with
  | .null => .ok none
  | _ => (f j).map some

/-- A signed 64-bit integer. -/
def asI64 (j : Json) : Except String Int :=
  match j with
  | .num (.int i) =>
    if i < (Nat.pow 2 63 : Int) then .ok i else .error (invalidValue (describeNumber (.int i)) "i64")
  | _ => .error (invalidType j "i64")

/-- An unsigned machine-word integer. -/
def asUsize (j : Json) : Except String Nat :=
  match j with
  | .num (.int i) =>
    if 0 ≤ i then .ok i.toNat else .error (invalidValue (describeNumber (.int i)) "usize")
  | _ => .error (invalidType j "usize")

end EngineSdk.Json
