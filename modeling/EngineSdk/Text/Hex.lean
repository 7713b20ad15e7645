import EngineSdk.Text.Blank

/-!
# Hexadecimal text of bytes

`Hex.encode` writes each byte as two lower-case hexadecimal digits; `Hex.decode?` reads such
text back: it drops the blanks (the Unicode White_Space characters), then reads each pair of
characters as a number in base sixteen, two digits of either case or `+` and one digit.
-/

namespace EngineSdk.Hex

/-- The lower-case digit of a value below sixteen. -/
def digit (n : Nat) : Char :=
  if n < 10 then Char.ofNat (48 + n) else Char.ofNat (87 + n)

/-- The value of a hexadecimal digit of either case. -/
def digitValue? (c : Char) : Option Nat :=
  if '0' ≤ c ∧ c ≤ '9' then some (c.toNat - 48)
  else if 'a' ≤ c ∧ c ≤ 'f' then some (c.toNat - 87)
  else if 'A' ≤ c ∧ c ≤ 'F' then some (c.toNat - 55)
  else none

/-- The two digits of a byte. -/
def byteDigits (b : UInt8) : List Char := [digit (b.toNat / 16), digit (b.toNat % 16)]

/-- Two lower-case digits per byte. -/
def encode (bytes : List UInt8) : String := String.ofList (bytes.flatMap byteDigits)

/-- The byte a pair of characters writes: two digits, or `+` and one digit. -/
def pairValue? (a b : Char) : Option UInt8 := do
  let lo ← digitValue? b
  if a = '+' then pure lo.toUInt8
  else
    let hi ← digitValue? a
    pure (hi * 16 + lo).toUInt8

/-- Bytes from pairs of characters. -/
def decodeDigits : List Char → Option (List UInt8)
  | [] => some []
  | a :: b :: rest => do
    let byte ← pairValue? a b
    let tail ← decodeDigits rest
    pure (byte :: tail)
  | [_] => none

/-- The bytes written in hexadecimal text; blanks are ignored, an odd count of the other
characters or a pair that is no byte is refused. -/
def decode? (text : String) : Option (List UInt8) :=
  decodeDigits (text.toList.filter fun c => !Text.isBlank c)

end EngineSdk.Hex
