import EngineSdk.Toml.Scan
import EngineSdk.Toml.Value
import EngineSdk.Decimal.Nearest

/-!
# The words of TOML

The rules here read the pieces a document is made of: blanks, comments and line ends; the four
kinds of string; keys; integers in four bases; floats; booleans; and dates and times.

Each rule states what it commits to.  Once a string's opening mark is read, a missing closing
mark is a committed failure named after the kind of string; once an escape's backslash is read,
an unknown escape is a committed failure listing the known ones; once a digit separator `_` is
read, a digit must follow.  A number is converted after it is read: an integer that does not fit
in 64 signed bits, and a float that is infinite, fail committed at the number's start.

Dates are checked for the days of their month, leap years included; hours, minutes and
seconds for their ranges, with a leap second allowed.  Fractions of a second keep at most nine
digits, the rest being cut off.
-/

namespace EngineSdk.Toml

open Scan

/-- The byte of an ASCII character. -/
def byte (c : Char) : UInt8 := c.toNat.toUInt8

/-- A space or a tab. -/
def isWsChar (b : UInt8) : Bool := b == 0x20 || b == 0x09

/-- A byte allowed in a comment. -/
def isNonEol (b : UInt8) : Bool := b == 0x09 || (0x20 ≤ b && b ≤ 0x7E) || 0x80 ≤ b

/-- A decimal digit. -/
def isDigit (b : UInt8) : Bool := 0x30 ≤ b && b ≤ 0x39

/-- A hexadecimal digit, in either case. -/
def isHexDigit (b : UInt8) : Bool :=
  isDigit b || (0x41 ≤ b && b ≤ 0x46) || (0x61 ≤ b && b ≤ 0x66)

/-- A byte that stands for itself in a basic string. -/
def isBasicUnescaped (b : UInt8) : Bool :=
  isWsChar b || b == 0x21 || (0x23 ≤ b && b ≤ 0x5B) || (0x5D ≤ b && b ≤ 0x7E) || 0x80 ≤ b

/-- A byte allowed in a literal string. -/
def isLiteralChar (b : UInt8) : Bool :=
  b == 0x09 || (0x20 ≤ b && b ≤ 0x26) || (0x28 ≤ b && b ≤ 0x7E) || 0x80 ≤ b

/-- A sign. -/
def isSign (b : UInt8) : Bool := b == 0x2B || b == 0x2D

/-- The text of bytes that are valid UTF-8. -/
def utf8Text (bs : List UInt8) : Except String String :=
  match String.fromUTF8? (ByteArray.mk bs.toArray) with
  | some s => .ok s
  | none => .error "invalid utf-8 sequence"

/-- The text of ASCII bytes. -/
def asciiText (bs : List UInt8) : String := String.ofList (bs.map fun b => Char.ofNat b.toNat)

/-- The value of digits in a base. -/
def digitsValue (base : Nat) (bs : List UInt8) : Nat :=
  bs.foldl (fun acc b =>
    let d := if isDigit b then b.toNat - 0x30
      else if 0x61 ≤ b then b.toNat - 0x61 + 10 else b.toNat - 0x41 + 10
    acc * base + d) 0

/-- The failure of a conversion whose value is outside its range. -/
def outOfRange : String := TableError.outOfRange.message

/-! ## Blanks, comments and line ends -/

/-- Spaces and tabs. -/
def ws : Scan Unit := do
  let _ ← takeWhile 0 none isWsChar

/-- A comment, up to the line end. -/
def comment : Scan Unit := do
  literal [0x23]
  let _ ← takeWhile 0 none isNonEol

/-- A line feed, or a carriage return and a line feed. -/
def newline : Scan Unit := do
  let b ← anyByte
  if b == 0x0A then pure ()
  else if b == 0x0D then
    let _ ← oneOf (· == 0x0A)
  else fail

/-- A line end, or the end of the document. -/
def lineEnding : Scan Unit := firstOf [newline, atEnd]

/-- Blanks and a comment, then a line end; the range of the blanks and the comment. -/
def lineTrailing : Scan (Nat × Nat) := do
  let (_, s, e) ← spanned (do ws; let _ ← opt comment)
  lineEnding
  pure (s, e)

/-- Blanks and line ends. -/
def wsNewline : Scan Unit := do
  let _ ← many (firstOf [newline, do let _ ← takeWhile 1 none isWsChar])

/-- A line end, then blanks and line ends. -/
def wsNewlines : Scan Unit := do
  newline
  wsNewline

/-- One round of `wsCommentNewline`: blanks, then a comment with its line end or a line end;
whether to go on. -/
def wsCommentNewlineRound : Scan Bool := do
  ws
  match ← opt (peek anyByte) with
  | some b =>
    if b == 0x23 then
      comment
      newline
      pure true
    else if b == 0x0A || b == 0x0D then
      newline
      pure true
    else pure false
  | none => pure false

/-- Rounds of `wsCommentNewlineRound`, at most `fuel`, while they go on and read something. -/
def wsCommentNewlineFuel : Nat → Scan Unit
  | 0 => pure ()
  | fuel + 1 => do
    let start ← position
    let more ← wsCommentNewlineRound
    if more && (← position) != start then wsCommentNewlineFuel fuel else pure ()

/-- Blanks, comments and line ends, as between the values of an array. -/
def wsCommentNewline : Scan Unit := fun src p => wsCommentNewlineFuel (src.size - p + 1) src p

/-! ## Strings -/

/-- Exactly `n` hexadecimal digits naming a Unicode scalar value. -/
def hexEscape (n : Nat) : Scan Char :=
  tryMap (verify (takeWhile 0 (some n) isHexDigit) (·.length == n)) fun ds =>
    let v := digitsValue 16 ds
    if v < 0xD800 ∨ (0xDFFF < v ∧ v ≤ 0x10FFFF) then .ok (Char.ofNat v) else .error outOfRange

/-- The notes of an unknown escape. -/
def escapeNotes : List Note :=
  .label "escape sequence" :: ['b', 'f', 'n', 'r', 't', 'u', 'U', '\\', '"'].map
    fun c => .expected (.char c)

/-- Adds notes in order, innermost first. -/
def withNotes {α : Type} (ns : List Note) (s : Scan α) : Scan α := ns.foldl (fun s n => note n s) s

/-- What follows the backslash of an escape. -/
def escapeSeqChar : Scan Char := do
  let b ← anyByte
  if b == byte 'b' then pure '\x08'
  else if b == byte 'f' then pure '\x0c'
  else if b == byte 'n' then pure '\n'
  else if b == byte 'r' then pure '\r'
  else if b == byte 't' then pure '\t'
  else if b == byte 'u' then label "unicode 4-digit hex code" (cut (hexEscape 4))
  else if b == byte 'U' then label "unicode 8-digit hex code" (cut (hexEscape 8))
  else if b == 0x5C then pure '\\'
  else if b == 0x22 then pure '"'
  else withNotes escapeNotes (cut fail)

/-- An escape: a backslash and what follows. -/
def escaped : Scan Char := do
  literal [0x5C]
  escapeSeqChar

/-- A run of plain characters or one escape of a basic string. -/
def basicChars : Scan String :=
  firstOf [tryMap (takeWhile 1 none isBasicUnescaped) utf8Text, do pure (← escaped).toString]

/-- A basic string, between double quote marks. -/
def basicString : Scan String := do
  let _ ← oneOf (· == 0x22)
  let parts ← many basicChars
  let _ ← label "basic string" (cut (oneOf (· == 0x22)))
  pure (String.join parts)

/-- One or two quote marks `q` followed by `term`, which is not read. -/
def quotesBefore (q : UInt8) (term : Scan Unit) : Scan String := fun src p =>
  match (do literal [q, q]; peek term) src p with
  | .ok (_, r) => .ok (asciiText [q, q], r)
  | .error f =>
    if f.cut then .error f
    else (do literal [q]; peek term; pure (asciiText [q])) src p

/-- Any byte other than `q`, as the end of a run of quote marks. -/
def notQuote (q : UInt8) : Scan Unit := do
  let _ ← oneOf (· != q)

/-- A backslash at a line end, which removes the blanks and line ends after it. -/
def mlbEscapedNl : Scan Unit := do
  let _ ← many1 (do literal [0x5C]; ws; wsNewlines)

/-- A piece of a multi-line basic string. -/
def mlbContent : Scan String :=
  firstOf [tryMap (takeWhile 1 none isBasicUnescaped) utf8Text, do mlbEscapedNl; pure "",
    do pure (← escaped).toString, do newline; pure "\n"]

/-- Rounds of quote marks followed by pieces, at most `fuel`; a run of marks not followed by a
piece ends the body without being kept. -/
def mlbQuotedFuel : Nat → String → Scan String
  | 0, acc => pure acc
  | fuel + 1, acc => do
    match ← opt (quotesBefore 0x22 (notQuote 0x22)) with
    | none => pure acc
    | some q =>
      match ← opt mlbContent with
      | none => pure acc
      | some c =>
        let more ← many mlbContent
        mlbQuotedFuel fuel (acc ++ q ++ c ++ String.join more)

/-- The body of a multi-line basic string. -/
def mlBasicBody : Scan String := do
  let first ← many mlbContent
  let body ← fun src p => mlbQuotedFuel (src.size - p + 1) (String.join first) src p
  match ← opt (quotesBefore 0x22 (text "\"\"\"")) with
  | some q => pure (body ++ q)
  | none => pure body

/-- A multi-line basic string, between tripled double quote marks; a line end right after the
opening marks is dropped. -/
def mlBasicString : Scan String :=
  label "multiline basic string" (do
    text "\"\"\""
    let _ ← opt newline
    let body ← cut mlBasicBody
    cut (text "\"\"\"")
    pure body)

/-- A literal string, between apostrophes. -/
def literalString : Scan String :=
  label "literal string" (tryMap (do
    let _ ← oneOf (· == 0x27)
    let body ← cut (takeWhile 0 none isLiteralChar)
    let _ ← cut (oneOf (· == 0x27))
    pure body) utf8Text)

/-- A piece of a multi-line literal string. -/
def mllContent : Scan Unit := firstOf [do let _ ← oneOf isLiteralChar, newline]

/-- The body of a multi-line literal string. -/
def mlLiteralBody : Scan String :=
  tryMap (taken (do
    let _ ← many mllContent
    let _ ← many (do let _ ← quotesBefore 0x27 (notQuote 0x27); let _ ← many1 mllContent)
    let _ ← opt (quotesBefore 0x27 (text "'''")))) utf8Text

/-- A multi-line literal string, between tripled apostrophes; a line end right after the
opening marks is dropped, and every carriage return before a line feed. -/
def mlLiteralString : Scan String :=
  label "multiline literal string" (do
    text "'''"
    let _ ← opt newline
    let body ← cut mlLiteralBody
    cut (text "'''")
    pure (body.replace "\r\n" "\n"))

/-- A string of any of the four kinds. -/
def string : Scan String := firstOf [mlBasicString, basicString, mlLiteralString, literalString]

/-! ## Keys -/

/-- A bare key. -/
def unquotedKey : Scan String := do
  pure (asciiText (← takeWhile 1 none isBareKeyByte))

/-- One key, bare or quoted, with its range. -/
def simpleKey : Scan Key := do
  let (name, s, e) ← spanned (do
    let b ← peek anyByte
    if b == 0x22 then basicString
    else if b == 0x27 then literalString
    else unquotedKey)
  pure ⟨name, ⟨s, e⟩⟩

/-- A dotted key: keys separated by dots, with blanks around each; at most 79 of them. -/
def key : Scan (List Key) :=
  tryMap (label "key" (sepBy1 (do ws; let k ← simpleKey; ws; pure k) (oneOf (· == 0x2E))))
    fun ks => if 80 ≤ ks.length then .error TableError.recursionLimit.message else .ok ks

/-! ## Numbers and booleans -/

/-- A decimal digit. -/
def digit : Scan UInt8 := oneOf isDigit

/-- Further digits of class `d`, each alone or after one underscore. -/
def digitTail (d : UInt8 → Bool) : Scan Unit := do
  let _ ← many (firstOf [do let _ ← oneOf d,
    do
      let _ ← oneOf (· == 0x5F)
      let _ ← note (.expected (.description "digit")) (cut (oneOf d))])

/-- A signed decimal integer without leading zeros, as written. -/
def decInt : Scan String :=
  label "integer" (do
    let bs ← taken (do
      let _ ← opt (oneOf isSign)
      firstOf [do let _ ← oneOf (fun b => 0x31 ≤ b && b ≤ 0x39); digitTail isDigit,
        do let _ ← digit])
    pure (asciiText bs))

/-- The digits of an integer with a base prefix. -/
def prefixedInt (pfx : String) (d : UInt8 → Bool) (name : String) : Scan (List UInt8) :=
  label name (do
    text pfx
    taken (cut (do let _ ← oneOf d; digitTail d)))

/-- The text of the error for an integer too large or too small for 64 signed bits. -/
def intRangeError (negative : Bool) : String :=
  if negative then "number too small to fit in target type"
  else "number too large to fit in target type"

/-- A decimal integer's text, without underscores, as a 64-bit signed value. -/
def decValue (s : String) : Except Failure Int :=
  let cs := s.toList.filter (· != '_')
  let (negative, ds) := match cs with
    | '-' :: r => (true, r)
    | '+' :: r => (false, r)
    | r => (false, r)
  let v := digitsValue 10 (ds.map fun c => c.toNat.toUInt8)
  let v : Int := if negative then -v else v
  if v < -(Nat.pow 2 63 : Int) ∨ (Nat.pow 2 63 : Int) ≤ v then .error ⟨true, 0, [], some (intRangeError negative)⟩
  else .ok v

/-- The digits of an integer in `base`, without underscores, as a 64-bit signed value. -/
def radixValue (base : Nat) (ds : List UInt8) : Except String Int :=
  let v := digitsValue base (ds.filter (· != 0x5F))
  if Nat.pow 2 63 ≤ v then .error (intRangeError false) else .ok v

/-- An integer: hexadecimal, octal or binary after its prefix, decimal otherwise. -/
def integer : Scan Int := do
  let two ← peek (opt (taken (do let _ ← anyByte; let _ ← anyByte)))
  match two with
  | some [0x30, 0x78] => cut (tryMap (prefixedInt "0x" isHexDigit "hexadecimal integer") (radixValue 16))
  | some [0x30, 0x6F] =>
    cut (tryMap (prefixedInt "0o" (fun b => 0x30 ≤ b && b ≤ 0x37) "octal integer") (radixValue 8))
  | some [0x30, 0x62] =>
    cut (tryMap (prefixedInt "0b" (fun b => b == 0x30 || b == 0x31) "binary integer") (radixValue 2))
  | _ => convert decInt decValue

/-- Digits with single underscores between them; leading zeros allowed. -/
def zeroPrefixableInt : Scan Unit := do
  let _ ← digit
  digitTail isDigit

/-- A fraction: a point and digits. -/
def frac : Scan Unit := do
  let _ ← oneOf (· == 0x2E)
  note (.expected (.description "digit")) (cut zeroPrefixableInt)

/-- An exponent: `e` or `E`, a sign, digits. -/
def exponent : Scan Unit := do
  let _ ← oneOf (fun b => b == 0x65 || b == 0x45)
  let _ ← opt (oneOf isSign)
  cut zeroPrefixableInt

/-- The text of a float with a fraction or an exponent. -/
def floatText : Scan String := do
  let bs ← taken (do
    let _ ← decInt
    firstOf [exponent, do frac; let _ ← opt exponent])
  pure (asciiText bs)

/-- Splits float text without underscores into sign, significand digits and decimal exponent. -/
def floatParts (cs : List Char) : Bool × Nat × Int :=
  let (negative, cs) := match cs with
    | '-' :: r => (true, r)
    | '+' :: r => (false, r)
    | r => (false, r)
  let whole := cs.takeWhile Char.isDigit
  let cs := cs.drop whole.length
  let (fracDigits, cs) := match cs with
    | '.' :: r => (r.takeWhile Char.isDigit, r.drop (r.takeWhile Char.isDigit).length)
    | r => ([], r)
  let expValue : Int := match cs with
    | c :: r =>
      if c = 'e' ∨ c = 'E' then
        match r with
        | '-' :: ds => -(digitsValue 10 (ds.map fun c => c.toNat.toUInt8) : Int)
        | '+' :: ds => digitsValue 10 (ds.map fun c => c.toNat.toUInt8)
        | ds => digitsValue 10 (ds.map fun c => c.toNat.toUInt8)
      else 0
    | [] => 0
  let m := digitsValue 10 ((whole ++ fracDigits).map fun c => c.toNat.toUInt8)
  (negative, m, expValue - fracDigits.length)

/-- A float's text as the nearest binary64 value; positive infinity is refused. -/
def floatValue (s : String) : Except Failure Float :=
  let (negative, m, e) := floatParts (s.toList.filter (· != '_'))
  let x := Decimal.nearest m e
  if x.isInf then
    (if negative then .ok (-x) else .error ⟨true, 0, [], none⟩)
  else .ok (if negative then -x else x)

/-- Positive infinity. -/
def infinity : Float := Float.ofBits 0x7FF0000000000000

/-- A quiet NaN with the sign bit clear. -/
def notANumber : Float := Float.ofBits 0x7FF8000000000000

/-- `inf`. -/
def infWord : Scan Float := do
  text "inf"
  pure infinity

/-- `nan`. -/
def nanWord : Scan Float := do
  text "nan"
  pure notANumber

/-- `inf` or `nan` with an optional sign. -/
def specialFloat : Scan Float := do
  let s ← opt (oneOf isSign)
  let f ← firstOf [infWord, nanWord]
  pure (if s == some 0x2D then -f else f)

/-- A float. -/
def float : Scan Float :=
  label "floating-point number" (firstOf [convert floatText floatValue, specialFloat])

/-- `true`, committed once its first letter is seen. -/
def trueWord : Scan Bool := do
  let _ ← peek (oneOf (· == byte 't'))
  cut (text "true")
  pure true

/-- `false`, committed once its first letter is seen. -/
def falseWord : Scan Bool := do
  let _ ← peek (oneOf (· == byte 'f'))
  cut (text "false")
  pure false

/-! ## Dates and times -/

/-- Between `lo` and `hi` decimal digits, as a number. -/
def unsignedDigits (lo hi : Nat) : Scan Nat := do
  pure (digitsValue 10 (← takeWhile lo (some hi) isDigit))

/-- Two digits within a range. -/
def twoDigitsIn (lo hi : Nat) : Scan Nat :=
  tryMap (unsignedDigits 2 2) fun d => if lo ≤ d ∧ d ≤ hi then .ok d else .error outOfRange

/-- The number of days of a month. -/
def daysInMonth (year month : Nat) : Nat :=
  let leap := year % 4 = 0 ∧ (year % 100 ≠ 0 ∨ year % 400 = 0)
  if month = 2 then (if leap then 29 else 28)
  else if month = 4 ∨ month = 6 ∨ month = 9 ∨ month = 11 then 30
  else 31

/-- A date: four-digit year, month and day; committed after the year's dash. -/
def fullDate : Scan (Nat × Nat × Nat) := do
  let year ← unsignedDigits 4 4
  let _ ← oneOf (· == 0x2D)
  let month ← cut (twoDigitsIn 1 12)
  let _ ← cut (oneOf (· == 0x2D))
  let dayStart ← position
  let day ← cut (twoDigitsIn 1 31)
  if daysInMonth year month < day then
    fun _ _ => .error ⟨true, dayStart, [], some outOfRange⟩
  else pure (year, month, day)

/-- Up to nine digits of a fraction of a second, as nanoseconds. -/
def secondFraction : Scan Nat :=
  tryMap (do let _ ← oneOf (· == 0x2E); takeWhile 1 none isDigit) fun ds =>
    let ds := ds.take 9
    .ok (digitsValue 10 ds * Nat.pow 10 (9 - ds.length))

/-- A time: hour, minute, second and fraction; committed after the hour's colon. -/
def partialTime : Scan (Nat × Nat × Nat × Nat) := do
  let h ← twoDigitsIn 0 23
  let _ ← oneOf (· == 0x3A)
  cut (do
    let m ← twoDigitsIn 0 59
    let _ ← oneOf (· == 0x3A)
    let s ← twoDigitsIn 0 60
    let ns ← opt secondFraction
    pure (h, m, s, ns.getD 0))

/-- A signed offset in minutes. -/
def numericOffset : Scan Int := do
  let sign ← oneOf isSign
  let (h, m) ← cut (do
    let h ← twoDigitsIn 0 23
    let _ ← oneOf (· == 0x3A)
    let m ← twoDigitsIn 0 59
    pure (h, m))
  let minutes : Int := h * 60 + m
  pure (if sign == 0x2D then -minutes else minutes)

/-- A time offset: `Z` or a signed hour and minute. -/
def timeOffset : Scan Offset :=
  label "time offset" (firstOf [do let _ ← oneOf (fun b => b == byte 'Z' || b == byte 'z'); pure .utc,
    do pure (.minutes (← verify numericOffset (fun m => -1440 ≤ m && m ≤ 1440)))])

/-- A date with an optional time and offset, or a time alone. -/
def dateTime : Scan Datetime :=
  firstOf [
    label "date-time" (do
      let date ← fullDate
      let rest ← opt (do
        let _ ← oneOf (fun b => b == byte 'T' || b == byte 't' || b == 0x20)
        let t ← partialTime
        let o ← opt timeOffset
        pure (t, o))
      match rest with
      | some (t, o) => pure ⟨some date, some t, o⟩
      | none => pure ⟨some date, none, none⟩),
    label "time" (do pure ⟨none, some (← partialTime), none⟩)]

end EngineSdk.Toml
