/-!
# Reading UTF-8 with replacement

`Utf8.decodeLossy` reads bytes as UTF-8 and puts U+FFFD in place of each ill-formed part:
a byte that cannot start a sequence, or the longest start of a sequence that is cut off by a
byte that cannot continue it or by the end of the input.  Well-formed input reads as itself.
-/

namespace EngineSdk.Utf8

/-- The replacement character U+FFFD. -/
def replacement : Char := '�'

/-- The number of continuation bytes a lead byte announces, with the range allowed for the
first of them; `none` for a byte that starts no sequence. -/
def leadInfo (b : UInt8) : Option (Nat × UInt8 × UInt8) :=
  if b < 0x80 then some (0, 0, 0)
  else if 0xC2 ≤ b ∧ b ≤ 0xDF then some (1, 0x80, 0xBF)
  else if b = 0xE0 then some (2, 0xA0, 0xBF)
  else if 0xE1 ≤ b ∧ b ≤ 0xEC then some (2, 0x80, 0xBF)
  else if b = 0xED then some (2, 0x80, 0x9F)
  else if 0xEE ≤ b ∧ b ≤ 0xEF then some (2, 0x80, 0xBF)
  else if b = 0xF0 then some (3, 0x90, 0xBF)
  else if 0xF1 ≤ b ∧ b ≤ 0xF3 then some (3, 0x80, 0xBF)
  else if b = 0xF4 then some (3, 0x80, 0x8F)
  else none

/-- A continuation byte, `0x80` to `0xBF`. -/
def isCont (b : UInt8) : Bool := 0x80 ≤ b && b ≤ 0xBF

/-- The low six bits of a continuation byte. -/
def low6 (b : UInt8) : Nat := (b &&& 0x3F).toNat

/-- The characters of a byte list, with U+FFFD for each ill-formed part. -/
def decodeChars : List UInt8 → List Char
  | [] => []
  | b :: rest =>
    match leadInfo b with
    | none => replacement :: decodeChars rest
    | some (0, _, _) => Char.ofNat b.toNat :: decodeChars rest
    | some (n, lo, hi) =>
      match h1 : rest with
      | [] => [replacement]
      | c1 :: r1 =>
        if !(lo ≤ c1 && c1 ≤ hi) then replacement :: decodeChars rest
        else if n = 1 then
          Char.ofNat ((b &&& 0x1F).toNat * 64 + low6 c1) :: decodeChars r1
        else
          match h2 : r1 with
          | [] => [replacement]
          | c2 :: r2 =>
            if !isCont c2 then replacement :: decodeChars r1
            else if n = 2 then
              Char.ofNat ((b &&& 0x0F).toNat * 4096 + low6 c1 * 64 + low6 c2) :: decodeChars r2
            else
              match h3 : r2 with
              | [] => [replacement]
              | c3 :: r3 =>
                if !isCont c3 then replacement :: decodeChars r2
                else
                  Char.ofNat ((b &&& 0x07).toNat * 262144 + low6 c1 * 4096 + low6 c2 * 64
                    + low6 c3) :: decodeChars r3
termination_by bytes => bytes.length
decreasing_by all_goals simp_all <;> omega

/-- The text of a byte list, with U+FFFD for each ill-formed part. -/
def decodeLossy (bytes : List UInt8) : String := String.ofList (decodeChars bytes)

end EngineSdk.Utf8
