import EngineSdk.Json.Reader
import EngineSdk.Math.Vec
import EngineSdk.Text.Hex
import EngineSdk.Text.CString

/-!
# Requests and replies

The SDK can be driven by JSON requests: each names an operation and its arguments, and is
answered with a value or a refusal.  This module holds what every operation shares: the
refusal type, readers for the argument forms and writers for the answer forms.

Numbers in binary32 are written as the shortest decimal of the value widened to binary64; the
values without a decimal are written as the strings `NaN`, `inf` and `-inf`.  Bytes travel as
lower-case hexadecimal; C strings may also be given as text, as `\x7b"hex": ...\x7d` or as a byte
list.
-/

namespace EngineSdk.Api

/-- Why a request has no value: the kind of the failure and its text. -/
structure Refusal where
  kind : String
  message : String

/-- The answer to a request. -/
abbrev Reply := Except Refusal

/-- A refusal of the arguments themselves. -/
def refuse {α : Type} (m : String) : Reply α := .error ⟨"bad_input", m⟩

/-- The refusal for a stopped call. -/
def aborted {α : Type} (p : Panic) : Reply α := .error ⟨"panic", p.message⟩

/-- A call that may stop, as a reply. -/
def ofPanic {α : Type} : Except Panic α → Reply α
  | .ok a => .ok a
  | .error p => aborted p

/-- A required member of a request. -/
def need (j : Json) (k : String) : Reply Json :=
  match j.get? k with
  | some v => pure v
  | none => refuse ("missing " ++ k)

/-- A non-negative integer argument. -/
def natIn (j : Json) : Reply Nat :=
  match j with
  | .num (.int i) => if i ≥ 0 then pure i.toNat else refuse "expected a non-negative integer"
  | _ => refuse "expected an integer"

/-- An integer argument. -/
def intIn (j : Json) : Reply Int :=
  match j with
  | .num (.int i) => pure i
  | _ => refuse "expected an integer"

/-- A string argument. -/
def strIn (j : Json) : Reply String :=
  match j with
  | .str s => pure s
  | _ => refuse "expected a string"

/-- An array argument. -/
def arrIn (j : Json) : Reply (List Json) :=
  match j with
  | .arr xs => pure xs
  | _ => refuse "expected a list"

/-- A binary32 argument: a number rounded to binary32, `NaN`, `inf`, `-inf` or `-0` as a string,
or `\x7b"f32bits": n\x7d` for the value with those bits. -/
def f32In (j : Json) : Reply Float32 :=
  match j with
  | .num (.int i) => pure (Float.ofInt i).toFloat32
  | .num (.float x) => pure x.toFloat32
  | .str "NaN" => pure Single.nan
  | .str "inf" => pure (1 / 0)
  | .str "-inf" => pure (-1 / 0)
  | .str "-0" => pure (-0)
  | .str _ => refuse "bad float string"
  | .obj _ =>
    match j.get? "f32bits" with
    | some b => do let n ← natIn b; pure (Float32.ofBits n.toUInt32)
    | none => refuse "bad float"
  | _ => refuse "bad float"

/-- The bits a binary32 argument is stored with.  A NaN given by its bits keeps its sign and
payload and is made quiet (its top fraction bit set), as widening it to binary64 and back does;
every other argument is stored with the bits of its `f32In` value. -/
def f32BitsIn (j : Json) : Reply UInt32 :=
  match j with
  | .obj _ =>
    match j.get? "f32bits" with
    | some b => do
      let u := (← natIn b).toUInt32
      let nan := u &&& 0x7F800000 == 0x7F800000 && u &&& 0x007FFFFF != 0
      pure (if nan then u ||| 0x00400000 else u)
    | none => refuse "bad float"
  | _ => do pure (← f32In j).toBits

/-- A binary32 value as answered: its binary64 widening, or `NaN`, `inf` or `-inf` as a string. -/
def f32Out (x : Float32) : Json :=
  if x.isNaN then .str "NaN"
  else if x.isInf then .str (if x > 0 then "inf" else "-inf")
  else Json.float x.toFloat

/-- Bytes given as hexadecimal text. -/
def hexIn (j : Json) : Reply (List UInt8) := do
  match Hex.decode? (← strIn j) with
  | some bs => pure bs
  | none => refuse "bad hex"

/-- Bytes given as a string (its UTF-8 bytes), as `\x7b"hex": text\x7d`, or as a list of bytes. -/
def bytesIn (j : Json) : Reply (List UInt8) :=
  match j with
  | .str s => pure s.toUTF8.toList
  | .arr xs => xs.mapM fun x => do
    let n ← natIn x
    if n < 256 then pure n.toUInt8 else refuse "byte out of range"
  | .obj _ => do hexIn (← need j "hex")
  | _ => refuse "expected bytes"

/-- Bytes as hexadecimal text. -/
def hexOut (bs : List UInt8) : Json := .str (Hex.encode bs)

/-- A 32-bit unsigned argument. -/
def u32In (j : Json) : Reply UInt32 := do
  let n ← natIn j
  if n < Nat.pow 2 32 then pure n.toUInt32 else refuse "value out of u32 range"

/-- A 32-bit signed argument; `what` names it in the refusal. -/
def i32In (what : String) (j : Json) : Reply Int := do
  let v ← intIn j
  if -2147483648 ≤ v ∧ v < 2147483648 then pure v else refuse (what ++ " out of i32 range")

/-- A vector of `n` binary32 components. -/
def vecIn (n : Nat) (name : String) (j : Json) : Reply (Vec n) := do
  let xs ← (← arrIn j).mapM f32In
  if h : xs.length = n then pure ⟨⟨xs.toArray, by simpa using h⟩⟩
  else refuse (name ++ " has wrong length")

/-- A vector as answered, component by component. -/
def vecOut {n : Nat} (v : Vec n) : Json := .arr (v.toList.map f32Out)

/-- A refusal as answered. -/
def failJson (f : Refusal) : Json := .obj [("error", .str f.kind), ("message", .str f.message)]

/-- An optional value as answered: null when absent. -/
def optJson {α : Type} (f : α → Json) : Option α → Json
  | some a => f a
  | none => .null

/-- A binary64 value as answered, or `NaN`, `inf` or `-inf` as a string. -/
def f64Out (x : Float) : Json :=
  if x.isNaN then .str "NaN" else if x.isInf then .str (if x > 0 then "inf" else "-inf")
  else Json.float x

/-- A member that is `true`; anything else, or its absence, is false. -/
def flagIn (req : Json) (k : String) : Bool :=
  match req.get? k with
  | some (.bool true) => true
  | _ => false

/-- Runs steps in order on a state: a refused step answers its refusal and leaves the state unchanged. -/
def runSteps {σ : Type} (s : σ) (steps : List Json) (f : σ → Json → Reply (Json × σ)) : List Json × σ :=
  steps.foldl (fun (acc, s) step =>
    match f s step with
    | .ok (r, s') => (acc ++ [r], s')
    | .error e => (acc ++ [failJson e], s)) ([], s)

/-- A list of 32-bit signed integers. -/
def i32List (j : Json) : Reply (List Int) := do (← arrIn j).mapM (i32In "value")

/-- A 16-bit unsigned argument. -/
def u16In (j : Json) : Reply UInt16 := do
  let n ← natIn j
  if n < 65536 then pure n.toUInt16 else refuse "value out of u16 range"

/-- A boolean argument. -/
def boolIn (j : Json) : Reply Bool :=
  match j with
  | .bool b => pure b
  | _ => refuse "expected a bool"

/-- An optional argument read with `f`, or `d` when it is absent or null. -/
def optIn {α : Type} (j : Json) (k : String) (d : α) (f : Json → Reply α) : Reply α :=
  match j.get? k with
  | none | some .null => pure d
  | some v => f v

/-- An error value: its kind and its text. -/
def errorJson (kind message : String) : Json := .obj [("error", .str kind), ("message", .str message)]

/-- A C string: null for a null pointer, otherwise bytes without a NUL. -/
def cstrIn (j : Json) : Reply CString :=
  match j with
  | .null => pure none
  | _ => do
    let bs ← bytesIn j
    if bs.contains 0 then refuse "NUL inside C string" else pure (some bs)

end EngineSdk.Api
