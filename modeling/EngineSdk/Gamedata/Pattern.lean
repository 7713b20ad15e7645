import EngineSdk.Gamedata.Error
import EngineSdk.Text.Blank
import EngineSdk.Text.Hex
import EngineSdk.Bytes.LittleEndian

/-!
# Byte patterns

A signature pattern is a list of bytes and wildcards, written as blank-separated words: `?` or
`??` for a wildcard, otherwise a hexadecimal number from 0 to 255 (an optional `+`, then one or
more hexadecimal digits of either case, leading zeros allowed).

`Pattern.scan` finds the first offset at which a pattern matches a region of memory: every
byte of the pattern equals the byte at that offset plus its position, and wildcards match
anything.  `relativeTarget` follows a 32-bit displacement stored in code: the target lies the
displacement away from the end of the four displacement bytes.
-/

namespace EngineSdk

/-- A pattern of bytes; `none` matches any byte. -/
abbrev Pattern := List (Option UInt8)

namespace Pattern

/-- The value of a hexadecimal numeral: one or more digits of either case. -/
def hexValue? (digits : List Char) : Option Nat :=
  if digits.isEmpty then none
  else digits.foldlM (fun acc c => (Hex.digitValue? c).map (acc * 16 + ·)) 0

/-- A byte written in hexadecimal with an optional leading `+`. -/
def byteOfWord? (w : String) : Option UInt8 :=
  let digits := match w.toList with
    | '+' :: rest => rest
    | cs => cs
  match hexValue? digits with
  | some n => if n < 256 then some n.toUInt8 else none
  | none => none

/-- One word of a pattern. -/
def parseWord (w : String) : Except GamedataError (Option UInt8) :=
  if w = "?" ∨ w = "??" then .ok none
  else
    match byteOfWord? w with
    | some b => .ok (some b)
    | none => .error (.invalidSignature ("Invalid hex byte: " ++ w))

/-- Reads a pattern; a text without words is refused. -/
def parse (text : String) : Except GamedataError Pattern := do
  let p ← (Text.words text).mapM parseWord
  if p.isEmpty then throw (.invalidSignature "Empty signature pattern") else pure p

/-- The canonical text of a pattern: two upper-case digits per byte, `?` per wildcard. -/
def render (p : Pattern) : String :=
  " ".intercalate (p.map fun
    | some b => String.ofList ((Hex.byteDigits b).map Char.toUpper)
    | none => "?")

/-- The pattern matches the bytes at the start of `bytes`. -/
def matchesPrefix : Pattern → List UInt8 → Bool
  | [], _ => true
  | _ :: _, [] => false
  | none :: p, _ :: bs => matchesPrefix p bs
  | some b :: p, c :: bs => b == c && matchesPrefix p bs

/-- The first offset below `limit` from which the pattern matches `bytes`, counting from `base`. -/
def scanFrom (p : Pattern) (base : Nat) : Nat → List UInt8 → Option Nat
  | 0, _ => none
  | limit + 1, bytes =>
    if matchesPrefix p bytes then some base
    else scanFrom p (base + 1) limit bytes.tail

/-- The first offset at which the pattern matches within the first `size` bytes of `memory`;
none for an empty pattern or one longer than the region. -/
def scan (p : Pattern) (memory : List UInt8) (size : Nat) : Option Nat :=
  if p.isEmpty ∨ size < p.length then none
  else scanFrom p 0 (size - p.length + 1) (memory.take size)

end Pattern

/-- The target of a 32-bit displacement stored at `operand` in `memory`: `operand + 4 + disp`,
with `disp` read little-endian as a signed number. -/
def relativeTarget (memory : List UInt8) (operand : Nat) : Int :=
  let disp := LittleEndian.toSigned 32 (LittleEndian.toNat ((memory.drop operand).take 4))
  operand + 4 + disp

end EngineSdk
