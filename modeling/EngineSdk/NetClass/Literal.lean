import EngineSdk.NetClass.Token

/-!
# Literal values

A literal token is classified by its first characters: a string (cooked or raw), a byte
string, a C string, a byte, a character, or a number.  A number is a float when its digits
read as one (a point, or an exponent with digits), and an integer otherwise, whatever its
suffix.  The words `true` and `false` are boolean literals, and a minus sign directly before a
number makes a negative number literal.

The value of a string literal is its text with the escapes decoded: the named escapes, `\x`
with two hex digits, `\u{...}`, a carriage return and line feed read as a line feed, and a
backslash at the end of a line dropping the line end and the blanks after it.  A raw string's
value is its text between the quotes.  A suffix after the closing quote is not part of it.
-/

namespace EngineSdk.NetClass

/-- A literal, with the value kept where it matters. -/
inductive Lit where
  | str (value : String)
  | byteStr
  | cStr
  | byte
  | char (c : Char)
  | int
  | float
  | bool (b : Bool)
  | verbatim
deriving Repr, DecidableEq

/-- The value of a hex digit. -/
def hexValue (c : Char) : Nat :=
  if c.isDigit then c.toNat - 48 else if 'a' ≤ c ∧ c ≤ 'f' then c.toNat - 87 else c.toNat - 55

/-- The value of `\u{...}` digits up to the closing brace, and what follows it. -/
def unicodeEscape (value : Nat) : List Char → Nat × List Char
  | [] => (value, [])
  | '}' :: rest => (value, rest)
  | '_' :: rest => unicodeEscape value rest
  | c :: rest => unicodeEscape (value * 16 + hexValue c) rest

/-- The text of a cooked string body up to its closing quote, escapes decoded; at most `fuel`
steps. -/
def cookedValue : Nat → List Char → List Char
  | 0, _ => []
  | fuel + 1, s =>
    match s with
    | [] => []
    | '"' :: _ => []
    | '\r' :: '\n' :: rest => '\n' :: cookedValue fuel rest
    | '\\' :: c :: rest =>
      if c = 'x' then
        match rest with
        | a :: b :: r => Char.ofNat (hexValue a * 16 + hexValue b) :: cookedValue fuel r
        | _ => []
      else if c = 'u' then
        let (v, r) := unicodeEscape 0 (rest.drop 1)
        Char.ofNat v :: cookedValue fuel r
      else if c = '\n' ∨ c = '\r' then
        cookedValue fuel (rest.dropWhile fun d => d = ' ' ∨ d = '\t' ∨ d = '\n' ∨ d = '\r')
      else
        let e := if c = 'n' then '\n' else if c = 'r' then '\r' else if c = 't' then '\t'
          else if c = '0' then Char.ofNat 0 else c
        e :: cookedValue fuel rest
    | c :: rest => c :: cookedValue fuel rest

/-- The text of a raw string body closed by a quote and `n` hashes. -/
def rawValue (n : Nat) : List Char → List Char
  | [] => []
  | '"' :: rest =>
    if (rest.take n).all (· = '#') ∧ n ≤ rest.length then [] else '"' :: rawValue n rest
  | '\r' :: '\n' :: rest => '\n' :: rawValue n rest
  | c :: rest => c :: rawValue n rest

/-- The value of a string literal written as `repr`. -/
def stringValue (repr : String) : String :=
  match repr.toList with
  | '"' :: body => String.ofList (cookedValue (body.length + 1) body)
  | 'r' :: rest =>
    let hashes := (rest.takeWhile (· = '#')).length
    String.ofList (rawValue hashes (rest.drop (hashes + 1)))
  | _ => ""

/-- The character of a character literal written as `repr`. -/
def charValue (repr : String) : Char :=
  match repr.toList with
  | '\'' :: body => ((cookedValue 4 body).head?).getD (Char.ofNat 0)
  | _ => Char.ofNat 0

/-- A number literal is a float. -/
def isFloatText (repr : String) : Bool := (floatDigits repr.toList).isSome

/-- The literal a literal token stands for. -/
def Lit.ofRepr (repr : String) : Lit :=
  match repr.toList with
  | '"' :: _ => .str (stringValue repr)
  | 'r' :: _ => .str (stringValue repr)
  | 'b' :: '"' :: _ => .byteStr
  | 'b' :: 'r' :: _ => .byteStr
  | 'b' :: '\'' :: _ => .byte
  | 'c' :: _ => .cStr
  | '\'' :: _ => .char (charValue repr)
  | c :: _ =>
    if c.isDigit then (if isFloatText repr then .float else .int) else .verbatim
  | [] => .verbatim

/-- The value of a digit in a base up to sixteen, if it is one. -/
def digitIn (base : Nat) (c : Char) : Option Nat :=
  let v := if c.isDigit then c.toNat - 48
    else if 'a' ≤ c ∧ c ≤ 'f' then c.toNat - 87
    else if 'A' ≤ c ∧ c ≤ 'F' then c.toNat - 55
    else base
  if v < base then some v else none

/-- The value of the digits at the start of `s` in `base`, underscores skipped, added to
`acc`; and the text after them. -/
def digitsValue (base acc : Nat) : List Char → Nat × List Char
  | [] => (acc, [])
  | c :: rest =>
    if c = '_' then digitsValue base acc rest
    else
      match digitIn base c with
      | some d => digitsValue base (acc * base + d) rest
      | none => (acc, c :: rest)

/-- The value and the suffix of an integer literal written as `repr`. -/
def intValue (repr : String) : Nat × String :=
  let s := repr.toList
  let (base, body) :=
    if startsWith s "0x" then (16, s.drop 2)
    else if startsWith s "0o" then (8, s.drop 2)
    else if startsWith s "0b" then (2, s.drop 2)
    else (10, s)
  let (v, suffix) := digitsValue base 0 body
  (v, String.ofList suffix)

/-- The largest index of a tuple field, the largest 32-bit unsigned number. -/
def maxFieldIndex : Nat := 4294967295

/-- The index of a tuple field named by the literal text `part`: the text must be one integer
literal, without a suffix, and its value must fit in 32 bits. -/
def fieldIndex (part : String) : Except String Nat :=
  let s := part.toList
  if floatLit s == some [] then .error "expected integer literal"
  else
    match intLit s with
    | some [] =>
      let (v, suffix) := intValue part
      if !suffix.isEmpty then .error "expected unsuffixed integer"
      else if v > maxFieldIndex then .error "number too large to fit in target type"
      else .ok v
    | _ =>
      if s.isEmpty then .error "unexpected end of input, expected integer literal"
      else .error "expected integer literal"

/-- The parts of a float literal that a field access `x.1.2` is read as: its text split at
its points, a last point dropped; and whether there was a last point. -/
def floatFieldParts (repr : String) : List String × Bool :=
  let trailing := repr.endsWith "."
  let body := if trailing then String.ofList (repr.toList.dropLast) else repr
  (body.splitOn ".", trailing)

/-- A literal at the start of `ts`, with its text and the number of tokens it takes: a literal
token, `true` or `false`, or a minus sign and a number. -/
def litAt (ts : List Token) : Option (Lit × String × Nat) :=
  match ts with
  | .literal r :: _ => some (Lit.ofRepr r, r, 1)
  | .ident "true" :: _ => some (.bool true, "true", 1)
  | .ident "false" :: _ => some (.bool false, "false", 1)
  | .punct '-' _ :: .literal r :: _ =>
    match r.toList with
    | c :: _ => if c.isDigit then some (Lit.ofRepr r, "-" ++ r, 2) else none
    | [] => none
  | _ => none

end EngineSdk.NetClass
