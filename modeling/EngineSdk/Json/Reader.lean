import EngineSdk.Json.Basic
import EngineSdk.Text.Debug

/-!
# Reading JSON text

The reader works on the UTF-8 bytes of the text and reports the first fault with its place, as
a line (from 1) and a column (bytes since the start of the line).  Two kinds of place occur: a
fault found in a byte already taken lies after that byte (`ReadError.here`), a fault found by
looking at the next byte lies after that byte too, unless the text has ended
(`ReadError.ahead`).

Numbers follow a fixed rule, which decides both their kind and their value:

* an integer literal is an integer; a negative zero, or a negative literal below `-2 ^ 63`,
  is a float instead, and a literal beyond `2 ^ 64 - 1` goes on as a float;
* a float is computed from at most nineteen significant decimal digits (later digits are
  dropped or counted into the exponent) and a power of ten: the digits are rounded to binary64,
  then multiplied or divided once by the binary64 nearest to the power of ten (in steps of
  `10 ^ 308` below `1e-308`); a product that overflows is an error.

Nesting deeper than 127 arrays and objects is refused.
-/

namespace EngineSdk.Json

/-- What can be wrong with JSON text. -/
inductive Fault where
  | eofInValue
  | eofInList
  | eofInObject
  | eofInString
  | expectedColon
  | expectedListCommaOrEnd
  | expectedObjectCommaOrEnd
  | expectedIdent
  | expectedValue
  | invalidEscape
  | invalidNumber
  | numberOutOfRange
  | controlCharacter
  | keyMustBeString
  | loneSurrogate
  | unexpectedEndOfHexEscape
  | trailingComma
  | trailingCharacters
  | tooDeep
  /-- A well-formed value of the wrong kind: what was found and what was expected. -/
  | invalidType (found : String) (expected : String)
deriving Repr, DecidableEq

/-- The text of a fault. -/
def Fault.message : Fault → String
  | .eofInValue => "EOF while parsing a value"
  | .eofInList => "EOF while parsing a list"
  | .eofInObject => "EOF while parsing an object"
  | .eofInString => "EOF while parsing a string"
  | .expectedColon => "expected `:`"
  | .expectedListCommaOrEnd => "expected `,` or `]`"
  | .expectedObjectCommaOrEnd => "expected `,` or `\x7d`"
  | .expectedIdent => "expected ident"
  | .expectedValue => "expected value"
  | .invalidEscape => "invalid escape"
  | .invalidNumber => "invalid number"
  | .numberOutOfRange => "number out of range"
  | .controlCharacter => "control character (\\u0000-\\u001F) found while parsing a string"
  | .keyMustBeString => "key must be a string"
  | .loneSurrogate => "lone leading surrogate in hex escape"
  | .unexpectedEndOfHexEscape => "unexpected end of hex escape"
  | .trailingComma => "trailing comma"
  | .trailingCharacters => "trailing characters"
  | .tooDeep => "recursion limit exceeded"
  | .invalidType found expected => "invalid type: " ++ found ++ ", expected " ++ expected

/-- A fault and its place, given as the number of bytes of the text after the place. -/
structure ReadError where
  fault : Fault
  remaining : Nat
deriving Repr, DecidableEq

/-- A fault found in a byte already taken; `rest` is what follows that byte. -/
def ReadError.here (f : Fault) (rest : List UInt8) : ReadError := ⟨f, rest.length⟩

/-- A fault found by looking at the first byte of `rest`: its place is after that byte. -/
def ReadError.ahead (f : Fault) (rest : List UInt8) : ReadError := ⟨f, rest.length - 1⟩

/-- Line (from 1) and column (bytes since the last line feed) after the bytes `taken`. -/
def lineColumn (taken : List UInt8) : Nat × Nat :=
  taken.foldl (fun (l, c) (b : UInt8) => if b == 10 then (l + 1, 0) else (l, c + 1)) (1, 0)

/-- The text of an error in `text`: the fault, then its line and column. -/
def ReadError.message (e : ReadError) (text : String) : String :=
  let bytes := text.toUTF8.toList
  let (line, col) := lineColumn (bytes.take (bytes.length - e.remaining))
  e.fault.message ++ " at line " ++ Nat.repr line ++ " column " ++ Nat.repr col

/-- What a step of the reader gives: a result and the bytes after it, or an error. -/
abbrev Step (α : Type) := Except ReadError (α × List UInt8)

/-- A decimal digit byte. -/
def isDigit (b : UInt8) : Bool := 48 ≤ b && b ≤ 57

/-- Drops blanks: space, tab, line feed, carriage return. -/
def skipBlank : List UInt8 → List UInt8
  | b :: r => if b == 32 || b == 9 || b == 10 || b == 13 then skipBlank r else b :: r
  | [] => []

/-- Drops decimal digits. -/
def skipDigits : List UInt8 → List UInt8
  | b :: r => if isDigit b then skipDigits r else b :: r
  | [] => []

/-- The largest significand: `2 ^ 64 - 1`. -/
def maxSignificand : Nat := Nat.pow 2 64 - 1

/-- Takes digits into `sig` while the result stays at most `maxSignificand`.  Gives the
significand, how many digits were taken, whether a digit was left for lack of room, and the
rest, which starts at that digit or after the last digit. -/
def takeDigits (sig count : Nat) : List UInt8 → Nat × Nat × Bool × List UInt8
  | b :: r =>
    if isDigit b then
      let next := sig * 10 + (b - 48).toNat
      if next ≤ maxSignificand then takeDigits next (count + 1) r else (sig, count, true, b :: r)
    else (sig, count, false, b :: r)
  | [] => (sig, count, false, [])

/-- Counts and drops digits. -/
def countDigits (count : Nat) : List UInt8 → Nat × List UInt8
  | b :: r => if isDigit b then countDigits (count + 1) r else (count, b :: r)
  | [] => (count, [])

/-- The binary64 value nearest to `10 ^ k`. -/
def tenPow (k : Nat) : Float := Float.ofScientific 1 false k

/-- Scales `f` by `10 ^ e`, one binary64 operation at a time; `none` when the value overflows. -/
def scaleTen (f : Float) (e : Int) : Option Float :=
  if e.natAbs ≤ 308 then
    if 0 ≤ e then
      let g := f * tenPow e.natAbs
      if g.isInf then none else some g
    else some (f / tenPow e.natAbs)
  else if f == 0 then some f
  else if 0 ≤ e then none
  else scaleTen (f / tenPow 308) (e + 308)
termination_by e.natAbs
decreasing_by omega

/-- An exponent kept within the 32-bit signed range. -/
def clampExponent (e : Int) : Int := max (-2147483648) (min 2147483647 e)

/-- The float `± sig * 10 ^ e`; `rest` follows the literal, for the place of an overflow. -/
def floatOf (positive : Bool) (sig : Nat) (e : Int) (rest : List UInt8) : Step Float :=
  match scaleTen (Float.ofNat sig) e with
  | some f => .ok (if positive then f else -f, rest)
  | none => .error (.here .numberOutOfRange rest)

/-- Exponent digits, taken while they fit in 31 bits; on overflow the rest starts with the digit
that overflowed, which the reader has already taken when it reports the overflow. -/
def takeExponent (e : Nat) : List UInt8 → Nat × Bool × List UInt8
  | b :: r =>
    if isDigit b then
      let next := e * 10 + (b - 48).toNat
      if next ≤ 2147483647 then takeExponent next r else (e, true, b :: r)
    else (e, false, b :: r)
  | [] => (e, false, [])

/-- The exponent part, after its `e` or `E`, of a literal with significand `sig` and decimal
exponent `start` so far. -/
def readExponent (positive : Bool) (sig : Nat) (start : Int) (rest : List UInt8) : Step Float :=
  let (upward, rest) :=
    match rest with
    | 43 :: r => (true, r)
    | 45 :: r => (false, r)
    | r => (true, r)
  match rest with
  | [] => .error (.here .eofInValue [])
  | b :: r =>
    if !isDigit b then .error (.here .invalidNumber r)
    else
      match takeExponent (b - 48).toNat r with
      | (_, true, r') =>
        if sig ≠ 0 && upward then .error (.here .numberOutOfRange r'.tail)
        else .ok (if positive then 0.0 else -0.0, skipDigits r')
      | (e, false, r') =>
        let total := if upward then start + e else start - e
        floatOf positive sig (clampExponent total) r'

/-- What follows the digits of a float: an exponent part or the end of the literal. -/
def finishFloat (positive : Bool) (sig : Nat) (e : Int) (rest : List UInt8) : Step Float :=
  match rest with
  | 101 :: r | 69 :: r => readExponent positive sig e r
  | _ => floatOf positive sig e rest

/-- The fraction part, after its point, of a literal with significand `sig` and decimal
exponent `start` so far.  At least one digit must follow the point. -/
def readFraction (positive : Bool) (sig : Nat) (start : Int) (rest : List UInt8) : Step Float :=
  match takeDigits sig 0 rest with
  | (sig', count, true, r) => finishFloat positive sig' (start - count) (skipDigits r)
  | (sig', count, false, r) =>
    if count = 0 then
      match r with
      | [] => .error (.ahead .eofInValue r)
      | _ => .error (.ahead .invalidNumber r)
    else finishFloat positive sig' (start - count) r

/-- What follows the integer digits when they all fit: a fraction, an exponent, or the end of an
integer literal. -/
def finishNumber (positive : Bool) (sig : Nat) (rest : List UInt8) : Step Number :=
  match rest with
  | 46 :: r => (readFraction positive sig 0 r).map fun (f, r) => (.float f, r)
  | 101 :: r | 69 :: r => (readExponent positive sig 0 r).map fun (f, r) => (.float f, r)
  | _ =>
    if positive then .ok (.int sig, rest)
    else if sig = 0 || sig > Nat.pow 2 63 then .ok (.float (-(Float.ofNat sig)), rest)
    else .ok (.int (-(sig : Int)), rest)

/-- A number after its sign: `positive` is false when a minus sign was taken. -/
def readNumber (positive : Bool) (rest : List UInt8) : Step Number :=
  match rest with
  | [] => .error (.here .eofInValue [])
  | 48 :: r =>
    match r with
    | b :: _ => if isDigit b then .error (.ahead .invalidNumber r) else finishNumber positive 0 r
    | [] => finishNumber positive 0 r
  | b :: r =>
    if !isDigit b then .error (.here .invalidNumber r)
    else
      match takeDigits (b - 48).toNat 0 r with
      | (sig, _, false, r') => finishNumber positive sig r'
      | (sig, _, true, r') =>
        -- the integer is too long for the significand: the remaining digits count as powers of ten
        let (extra, r'') := countDigits 0 r'
        (match r'' with
          | 46 :: r3 => readFraction positive sig extra r3
          | _ => finishFloat positive sig extra r'').map fun (f, r) => (.float f, r)

/-- The value of four hexadecimal digit bytes. -/
def hexValue (bs : List UInt8) : Option Nat :=
  bs.foldlM (fun acc b =>
    if 48 ≤ b && b ≤ 57 then some (acc * 16 + (b - 48).toNat)
    else if 65 ≤ b && b ≤ 70 then some (acc * 16 + (b - 55).toNat)
    else if 97 ≤ b && b ≤ 102 then some (acc * 16 + (b - 87).toNat)
    else none) 0

/-- The four hexadecimal digits of an escape `\u`, and the bytes after them. -/
def readHex4 (rest : List UInt8) : Except ReadError (Nat × {r : List UInt8 // r.length + 4 = rest.length}) :=
  match rest with
  | a :: b :: c :: d :: r =>
    match hexValue [a, b, c, d] with
    | some n => .ok (n, ⟨r, by simp⟩)
    | none => .error (.here .invalidEscape r)
  | _ => .error (.here .eofInString [])

/-- The UTF-8 bytes of a code point. -/
def utf8Bytes (cp : Nat) : List UInt8 :=
  (String.singleton (Char.ofNat cp)).toUTF8.toList

/-- The code point of an escape after its `\u`, with a second escape for a surrogate pair, and
the bytes after it. -/
def readUnicodeEscape (rest : List UInt8) :
    Except ReadError (Nat × {r : List UInt8 // r.length < rest.length}) :=
  match readHex4 rest with
  | .error e => .error e
  | .ok (n, ⟨r, hr⟩) =>
    if 0xDC00 ≤ n && n ≤ 0xDFFF then .error (.here .loneSurrogate r)
    else if n < 0xD800 || n > 0xDBFF then .ok (n, ⟨r, by omega⟩)
    else
      match r, hr with
      | [], _ => .error (.here .eofInString [])
      | 92 :: [], _ => .error (.here .eofInString [])
      | 92 :: 117 :: r3, h3 =>
        match readHex4 r3 with
        | .error e => .error e
        | .ok (n2, ⟨r4, h4⟩) =>
          if n2 < 0xDC00 || n2 > 0xDFFF then .error (.here .loneSurrogate r4)
          else .ok ((((n - 0xD800) <<< 10) ||| (n2 - 0xDC00)) + 0x10000,
            ⟨r4, by simp at h3; omega⟩)
      | 92 :: _ :: r3, _ => .error (.here .unexpectedEndOfHexEscape r3)
      | _ :: r2, _ => .error (.here .unexpectedEndOfHexEscape r2)

/-- The byte that a one-letter escape stands for. -/
def simpleEscape (e : UInt8) : Option UInt8 :=
  if e == 34 then some 34 else if e == 92 then some 92 else if e == 47 then some 47
  else if e == 98 then some 8 else if e == 102 then some 12 else if e == 110 then some 10
  else if e == 114 then some 13 else if e == 116 then some 9 else none

/-- The bytes of a string up to its closing quote, which is taken too; `acc` holds the bytes
read so far, last first.  Escapes are decoded; a raw control character is refused. -/
def readStringBytes (acc : List UInt8) : List UInt8 → Step (List UInt8)
  | [] => .error (.here .eofInString [])
  | [92] => .error (.here .eofInString [])
  | 92 :: e :: r =>
    match simpleEscape e with
    | some c => readStringBytes (c :: acc) r
    | none =>
      if e == 117 then
        match readUnicodeEscape r with
        | .ok (cp, ⟨r', _⟩) => readStringBytes ((utf8Bytes cp).reverse ++ acc) r'
        | .error err => .error err
      else .error (.here .invalidEscape r)
  | b :: r =>
    if b == 34 then .ok (acc.reverse, r)
    else if b < 32 then .error (.here .controlCharacter r)
    else readStringBytes (b :: acc) r
termination_by rest => rest.length
decreasing_by all_goals simp_all <;> omega

/-- A string after its opening quote. -/
def readString (rest : List UInt8) : Step String :=
  (readStringBytes [] rest).map fun (bytes, r) => ((String.fromUTF8? ⟨bytes.toArray⟩).getD "", r)

/-- The remaining letters of `null`, `true` or `false`. -/
def readIdent : List UInt8 → List UInt8 → Except ReadError (List UInt8)
  | [], rest => .ok rest
  | _ :: _, [] => .error (.here .eofInValue [])
  | c :: cs, b :: r => if b == c then readIdent cs r else .error (.here .expectedIdent r)

mutual

/-- A value, after any blanks.  `depth` is how many more arrays and objects may open. -/
def readValue (depth : Nat) (rest : List UInt8) : Step Json :=
  let rest := skipBlank rest
  match rest with
  | [] => .error (.ahead .eofInValue [])
  | b :: r =>
    if b == 110 then (readIdent [117, 108, 108] r).map fun r => (.null, r)
    else if b == 116 then (readIdent [114, 117, 101] r).map fun r => (.bool true, r)
    else if b == 102 then (readIdent [97, 108, 115, 101] r).map fun r => (.bool false, r)
    else if b == 45 then (readNumber false r).map fun (n, r) => (.num n, r)
    else if isDigit b then (readNumber true rest).map fun (n, r) => (.num n, r)
    else if b == 34 then (readString r).map fun (s, r) => (.str s, r)
    else if b == 91 then
      match depth with
      | d + 2 => (readItems (d + 1) r.length [] true r).map fun (xs, r) => (.arr xs, r)
      | _ => .error (.ahead .tooDeep rest)
    else if b == 123 then
      match depth with
      | d + 2 => (readMembers (d + 1) r.length [] true r).map fun (ms, r) => (.obj ms, r)
      | _ => .error (.ahead .tooDeep rest)
    else .error (.ahead .expectedValue rest)
termination_by (depth, 0)

/-- Array items after `[`, up to and including `]`; `acc` holds the items so far, last first.
Each item takes at least one byte, so `fuel`, the length of the text at the start, suffices. -/
def readItems (depth fuel : Nat) (acc : List Json) (first : Bool) (rest : List UInt8) :
    Step (List Json) :=
  match fuel with
  | 0 => .error (.ahead .eofInList [])
  | fuel + 1 =>
    let rest := skipBlank rest
    match rest with
    | [] => .error (.ahead .eofInList [])
    | b :: r =>
      if b == 93 then .ok (acc.reverse, r)
      else
        let next : Except ReadError (List UInt8) :=
          if first then .ok rest
          else if b == 44 then
            match skipBlank r with
            | [] => .error (.ahead .eofInValue [])
            | 93 :: r' => .error (.ahead .trailingComma (93 :: r'))
            | r' => .ok r'
          else .error (.ahead .expectedListCommaOrEnd rest)
        match next with
        | .error e => .error e
        | .ok start =>
          match readValue depth start with
          | .error e => .error e
          | .ok (v, r') => readItems depth fuel (v :: acc) false r'
termination_by (depth, fuel + 1)

/-- Object members after `{`, up to and including `}`; `acc` holds the members so far, last
first. -/
def readMembers (depth fuel : Nat) (acc : List (String × Json)) (first : Bool)
    (rest : List UInt8) : Step (List (String × Json)) :=
  match fuel with
  | 0 => .error (.ahead .eofInObject [])
  | fuel + 1 =>
    let rest := skipBlank rest
    match rest with
    | [] => .error (.ahead .eofInObject [])
    | b :: r =>
      if b == 125 then .ok (acc.reverse, r)
      else
        let next : Except ReadError (List UInt8) :=
          if first then .ok rest
          else if b == 44 then .ok (skipBlank r)
          else .error (.ahead .expectedObjectCommaOrEnd rest)
        match next with
        | .error e => .error e
        | .ok start =>
          match start with
          | [] => .error (.ahead .eofInValue [])
          | 125 :: r' => .error (.ahead .trailingComma (125 :: r'))
          | 34 :: r' =>
            match readString r' with
            | .error e => .error e
            | .ok (key, r2) =>
              match skipBlank r2 with
              | [] => .error (.ahead .eofInObject [])
              | 58 :: r3 =>
                match readValue depth r3 with
                | .error e => .error e
                | .ok (v, r4) => readMembers depth fuel ((key, v) :: acc) false r4
              | r3 => .error (.ahead .expectedColon r3)
          | r' => .error (.ahead .keyMustBeString r')
termination_by (depth, fuel + 1)

end

/-- The deepest nesting of arrays and objects, plus one. -/
def depthLimit : Nat := 128

/-- Only blanks may follow a complete value. -/
def expectEnd {α : Type} (v : α) (rest : List UInt8) : Except ReadError α :=
  match skipBlank rest with
  | [] => .ok v
  | r => .error (.ahead .trailingCharacters r)

/-- Reads a whole text as one JSON value. -/
def parse (text : String) : Except ReadError Json := do
  let (v, rest) ← readValue depthLimit text.toUTF8.toList
  expectEnd v rest

/-- How a value of the wrong kind is named in an error: its kind and, for a scalar, its text. -/
def describeNumber : Number → String
  | .int i => "integer `" ++ Decimal.intText i ++ "`"
  | .float x => "floating point `" ++ Number.floatFormat.render x ++ "`"

/-- Reads a whole text that must hold an object, named `expected` in the error for a value of
another kind; the error for such a value lies after the value when it is a scalar and before
it when it is an array. -/
def parseObject (text : String) (expected : String) : Except ReadError (List (String × Json)) := do
  let bytes := text.toUTF8.toList
  let rest := skipBlank bytes
  match rest with
  | [] => throw (.ahead .eofInValue [])
  | b :: r =>
    let wrong (found : String) (after : List UInt8) : Except ReadError (List (String × Json)) :=
      throw (.here (.invalidType found expected) after)
    if b == 123 then
      let (v, r') ← readValue depthLimit rest
      match v with
      | .obj ms => expectEnd ms r'
      | _ => expectEnd [] r'
    else if b == 110 then readIdent [117, 108, 108] r >>= wrong "null"
    else if b == 116 then readIdent [114, 117, 101] r >>= wrong "boolean `true`"
    else if b == 102 then readIdent [97, 108, 115, 101] r >>= wrong "boolean `false`"
    else if b == 45 then
      let (n, r') ← readNumber false r
      wrong (describeNumber n) r'
    else if isDigit b then
      let (n, r') ← readNumber true rest
      wrong (describeNumber n) r'
    else if b == 34 then
      let (s, r') ← readString r
      wrong ("string " ++ Text.debugQuote s) r'
    else if b == 91 then wrong "sequence" rest
    else throw (.ahead .expectedValue rest)

end EngineSdk.Json
