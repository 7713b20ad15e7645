import EngineSdk.Text.Unicode

/-!
# Source tokens

Source text is split into token trees: identifiers, punctuation characters, literals, and
groups delimited by parentheses, brackets or braces.  A punctuation character is joint when the
next character is punctuation too, so that `::` and `->` can be told from `: :` and `- >`; a
quote mark followed by an identifier (a lifetime) is always joint.

Between tokens, white space and comments are skipped; doc comments (`///`, `//!`, `/** */`,
`/*! */`) become `#[doc = "..."]` attributes, with a `!` after the `#` for the inner forms.
Text that cannot be split, an unclosed or mismatched delimiter, or an unterminated literal or
comment makes the whole text fail.

A literal is kept as written.  String literals, byte strings, C strings, characters, bytes and
numbers are recognised with their escapes checked and their suffixes taken along; the text
`(/*ERROR*/)`, which a compiler prints for code it could not read, is one literal too.

Tokens are printed back with one space between them, none after a joint punctuation
character; a group prints its delimiters around its tokens, with spaces inside braces.
-/

namespace EngineSdk.NetClass

/-- The delimiter of a group. -/
inductive Delimiter where
  | paren
  | bracket
  | brace
deriving Repr, DecidableEq

/-- A token tree. -/
inductive Token where
  | group (d : Delimiter) (body : List Token)
  /-- An identifier; a raw one keeps its `r#`. -/
  | ident (name : String)
  | punct (c : Char) (joint : Bool)
  /-- A literal as written. -/
  | literal (repr : String)
deriving Repr

/-- The punctuation characters. -/
def isPunctChar (c : Char) : Bool := "~!@#$%^&*-=+|;:,<.>/?'".toList.contains c

/-- `s` starts with the characters of `p`. -/
def startsWith (s : List Char) (p : String) : Bool := p.toList.isPrefixOf s

/-- The text up to the end of the line (a carriage return before the line feed excluded), and
what follows from the line feed on. -/
def untilNewline : List Char → List Char × List Char
  | [] => ([], [])
  | '\n' :: rest => ([], '\n' :: rest)
  | '\r' :: '\n' :: rest => ([], '\n' :: rest)
  | c :: rest => let (a, b) := untilNewline rest; (c :: a, b)

/-- A block comment, nested ones inside, at depth `depth`: the text read and what follows. -/
def blockCommentFrom (depth : Nat) : List Char → Option (List Char × List Char)
  | '/' :: '*' :: rest =>
    (blockCommentFrom (depth + 1) rest).map fun (a, b) => ('/' :: '*' :: a, b)
  | '*' :: '/' :: rest =>
    if depth ≤ 1 then some (['*', '/'], rest)
    else (blockCommentFrom (depth - 1) rest).map fun (a, b) => ('*' :: '/' :: a, b)
  | c :: rest => (blockCommentFrom depth rest).map fun (a, b) => (c :: a, b)
  | [] => none

/-- A block comment at the start of `s`: its whole text and what follows. -/
def blockComment (s : List Char) : Option (List Char × List Char) :=
  match s with
  | '/' :: '*' :: rest => (blockCommentFrom 1 rest).map fun (a, b) => ('/' :: '*' :: a, b)
  | _ => none

/-- White space and plain comments, at most `fuel` steps of them. -/
def skipWhitespace : Nat → List Char → List Char
  | 0, s => s
  | fuel + 1, s =>
    match s with
    | [] => []
    | c :: rest =>
      if c = '/' then
        if startsWith s "//" && (!startsWith s "///" || startsWith s "////") && !startsWith s "//!" then
          skipWhitespace fuel (untilNewline s).2
        else if startsWith s "/**/" then skipWhitespace fuel (s.drop 4)
        else if startsWith s "/*" && (!startsWith s "/**" || startsWith s "/***") && !startsWith s "/*!" then
          match blockComment s with
          | some (_, r) => skipWhitespace fuel r
          | none => s
        else s
      else if Unicode.isWhitespace c then skipWhitespace fuel rest
      else s

/-- The text of a doc comment at the start of `s`, whether it is an inner one, and what
follows. -/
def docCommentContents (s : List Char) : Option (List Char × Bool × List Char) :=
  if startsWith s "//!" then
    let (t, r) := untilNewline (s.drop 3)
    some (t, true, r)
  else if startsWith s "/*!" then
    (blockComment s).map fun (t, r) => ((t.drop 3).take (t.length - 5), true, r)
  else if startsWith s "///" then
    if startsWith (s.drop 3) "/" then none
    else
      let (t, r) := untilNewline (s.drop 3)
      some (t, false, r)
  else if startsWith s "/**" && !startsWith (s.drop 3) "*" then
    (blockComment s).map fun (t, r) => ((t.drop 3).take (t.length - 5), false, r)
  else none

/-- A carriage return not followed by a line feed. -/
def hasBareCr : List Char → Bool
  | '\r' :: '\n' :: rest => hasBareCr rest
  | '\r' :: _ => true
  | _ :: rest => hasBareCr rest
  | [] => false

/-- A string literal's text for a value: in double quotes, escaped as a literal shows it, with
apostrophes left alone. -/
def stringLiteral (value : String) : String :=
  let rec go : List Char → String
    | [] => ""
    | c :: rest =>
      let e :=
        if c.toNat = 0 then
          (match rest with
            | d :: _ => if '0' ≤ d ∧ d ≤ '7' then "\\x00" else "\\0"
            | [] => "\\0")
        else if c = '\'' then "'"
        else Unicode.escapeDebug c
      e ++ go rest
  "\"" ++ go value.toList ++ "\""

/-- The tokens of a doc comment's attribute. -/
def docTokens (text : List Char) (inner : Bool) : List Token :=
  let pound := Token.punct '#' false
  let body := Token.group .bracket
    [.ident "doc", .punct '=' false, .literal (stringLiteral (String.ofList text))]
  if inner then [pound, .punct '!' false, body] else [pound, body]

/-- The characters of an identifier that is not raw, and what follows. -/
def identNotRaw (s : List Char) : Option (List Char × List Char) :=
  match s with
  | c :: rest =>
    if Unicode.isIdentStart c then
      let more := rest.takeWhile Unicode.isIdentContinue
      some (c :: more, rest.drop more.length)
    else none
  | [] => none

/-- An identifier, raw or not, and what follows. -/
def identAny (s : List Char) : Option (String × List Char) :=
  let raw := startsWith s "r#"
  let body := if raw then s.drop 2 else s
  match identNotRaw body with
  | none => none
  | some (cs, rest) =>
    let name := String.ofList cs
    if !raw then some (name, rest)
    else if name = "_" ∨ name = "super" ∨ name = "self" ∨ name = "Self" ∨ name = "crate" then none
    else some ("r#" ++ name, rest)

/-- An identifier that does not start a string-like literal. -/
def identToken (s : List Char) : Option (String × List Char) :=
  if ["r\"", "r#\"", "r##", "b\"", "b'", "br\"", "br#", "c\"", "cr\"", "cr#"].any (startsWith s)
  then none
  else identAny s

/-- The suffix of a literal, when one follows. -/
def literalSuffix (s : List Char) : List Char :=
  match identNotRaw s with
  | some (_, rest) => rest
  | none => s

/-- A hexadecimal digit. -/
def isHexChar (c : Char) : Bool := c.isDigit || ('a' ≤ c ∧ c ≤ 'f') || ('A' ≤ c ∧ c ≤ 'F')

/-- What a quoted literal holds: text, bytes (ASCII only), or the text of a C string (no NUL). -/
inductive QuotedKind where
  | text
  | bytes
  | cText
deriving DecidableEq

/-- The rest of a `\x` escape: for text an octal digit then a hex digit, for bytes two hex
digits, for a C string two hex digits that are not both zero. -/
def backslashX (k : QuotedKind) (s : List Char) : Option (List Char) :=
  match s with
  | a :: b :: rest =>
    match k with
    | .text => if '0' ≤ a ∧ a ≤ '7' ∧ isHexChar b then some rest else none
    | .bytes => if isHexChar a ∧ isHexChar b then some rest else none
    | .cText => if isHexChar a ∧ isHexChar b ∧ !(a = '0' ∧ b = '0') then some rest else none
  | _ => none

/-- The digits and closing brace of a `\u{...}` escape, with the value read so far. -/
def backslashUDigits (value len : Nat) : List Char → Option (Nat × List Char)
  | [] => none
  | c :: rest =>
    if c = '_' ∧ 0 < len then backslashUDigits value len rest
    else if c = '}' ∧ 0 < len then some (value, rest)
    else if isHexChar c ∧ len < 6 then
      let d := if c.isDigit then c.toNat - 48 else if 'a' ≤ c then c.toNat - 87 else c.toNat - 55
      backslashUDigits (value * 16 + d) (len + 1) rest
    else none

/-- A value names a Unicode scalar value. -/
def isScalar (v : Nat) : Bool := v < 0xD800 || (0xDFFF < v && v ≤ 0x10FFFF)

/-- The rest of a `\u{...}` escape naming a scalar value, and that value. -/
def backslashU (s : List Char) : Option (Nat × List Char) :=
  match s with
  | '{' :: rest =>
    match backslashUDigits 0 0 rest with
    | some (v, r) => if isScalar v then some (v, r) else none
    | none => none
  | _ => none

/-- The rest of a `\u{...}` escape in a literal of kind `k`: bytes have none, C strings no
zero. -/
def backslashUIn (k : QuotedKind) (s : List Char) : Option (List Char) :=
  match k, backslashU s with
  | .bytes, _ => none
  | .cText, some (0, _) => none
  | _, r => r.map Prod.snd

/-- After a backslash and a line end: the blanks and line ends are skipped. -/
def trailingBackslash (last : Char) : List Char → Option (List Char)
  | [] => none
  | c :: rest =>
    if last = '\r' ∧ c ≠ '\n' then none
    else if last = '\r' then trailingBackslashAfter rest
    else if c = ' ' ∨ c = '\t' ∨ c = '\n' ∨ c = '\r' then trailingBackslash c rest
    else some (c :: rest)
where
  /-- After a carriage return and its line feed. -/
  trailingBackslashAfter : List Char → Option (List Char)
    | [] => none
    | c :: rest =>
      if c = ' ' ∨ c = '\t' ∨ c = '\n' ∨ c = '\r' then trailingBackslash c rest
      else some (c :: rest)

/-- A character may stand unescaped in a literal of kind `k`. -/
def plainIn (k : QuotedKind) (c : Char) : Bool :=
  match k with
  | .text => true
  | .bytes => c.toNat < 0x80
  | .cText => c.toNat ≠ 0

/-- The body of a cooked string of kind `k` after its opening quote, at most `fuel` steps. -/
def cookedBody (k : QuotedKind) : Nat → List Char → Option (List Char)
  | 0, _ => none
  | fuel + 1, s =>
    match s with
    | '"' :: rest => some (literalSuffix rest)
    | '\r' :: '\n' :: rest => cookedBody k fuel rest
    | '\r' :: _ => none
    | '\\' :: c :: rest =>
      if c = 'x' then (backslashX k rest).bind (cookedBody k fuel)
      else if c = 'n' ∨ c = 'r' ∨ c = 't' ∨ c = '\\' ∨ c = '\'' ∨ c = '"' ∨ (c = '0' ∧ k ≠ .cText) then
        cookedBody k fuel rest
      else if c = 'u' then (backslashUIn k rest).bind (cookedBody k fuel)
      else if c = '\n' ∨ c = '\r' then (trailingBackslash c rest).bind (cookedBody k fuel)
      else none
    | c :: rest => if plainIn k c then cookedBody k fuel rest else none
    | [] => none

/-- The `#`s before the quote of a raw string, and what follows the quote. -/
def rawDelimiter (s : List Char) : Option (Nat × List Char) :=
  let hashes := s.takeWhile (· = '#')
  match s.drop hashes.length with
  | '"' :: rest => if hashes.length > 255 then none else some (hashes.length, rest)
  | _ => none

/-- The body of a raw string of kind `k` after its opening quote, closed by a quote and `n`
hashes. -/
def rawBody (k : QuotedKind) (n : Nat) : List Char → Option (List Char)
  | [] => none
  | '"' :: rest =>
    if (rest.take n).all (· = '#') ∧ n ≤ rest.length then some (literalSuffix (rest.drop n))
    else rawBody k n rest
  | '\r' :: '\n' :: rest => rawBody k n rest
  | '\r' :: _ => none
  | c :: rest => if plainIn k c then rawBody k n rest else none

/-- A quoted literal of kind `k` after its prefix: cooked after a quote, raw after `r`. -/
def quotedLit (k : QuotedKind) (s : List Char) : Option (List Char) :=
  match s with
  | '"' :: rest => cookedBody k (rest.length + 1) rest
  | 'r' :: rest => (rawDelimiter rest).bind fun (n, r) => rawBody k n r
  | _ => none

/-- One character of a character or byte literal, escapes included. -/
def charBody (k : QuotedKind) (s : List Char) : Option (List Char) :=
  match s with
  | '\\' :: c :: rest =>
    if c = 'x' then backslashX k rest
    else if c = 'u' then backslashUIn k rest
    else if c = 'n' ∨ c = 'r' ∨ c = 't' ∨ c = '\\' ∨ c = '0' ∨ c = '\'' ∨ c = '"' then some rest
    else none
  | '\\' :: [] => none
  | c :: rest => if plainIn k c then some rest else none
  | [] => none

/-- A byte literal. -/
def byteLit (s : List Char) : Option (List Char) :=
  match s with
  | 'b' :: '\'' :: rest =>
    match charBody .bytes rest with
    | some ('\'' :: r) => some (literalSuffix r)
    | _ => none
  | _ => none

/-- A character literal. -/
def charLit (s : List Char) : Option (List Char) :=
  match s with
  | '\'' :: rest =>
    match charBody .text rest with
    | some ('\'' :: r) => some (literalSuffix r)
    | _ => none
  | _ => none

/-- The text at `s` does not continue an identifier. -/
def wordBreak (s : List Char) : Option (List Char) :=
  match s with
  | c :: _ => if Unicode.isIdentContinue c then none else some s
  | [] => some s

/-- The exponent digits of a float: a sign, digits and underscores.  Gives the characters read
and whether a digit was among them, or none when a second sign is met. -/
def exponentDigits (signSeen digitSeen : Bool) : List Char → Option (Nat × Bool)
  | [] => some (0, digitSeen)
  | c :: rest =>
    if c = '+' ∨ c = '-' then
      if digitSeen then some (0, digitSeen)
      else if signSeen then none
      else (exponentDigits true digitSeen rest).map fun (n, d) => (n + 1, d)
    else if c.isDigit then (exponentDigits signSeen true rest).map fun (n, d) => (n + 1, d)
    else if c = '_' then (exponentDigits signSeen digitSeen rest).map fun (n, d) => (n + 1, d)
    else some (0, digitSeen)

/-- The mantissa of a float after its first digit: digits, underscores and one point; the
characters read, whether a point and an exponent letter were read. -/
def floatMantissa (hasDot : Bool) : List Char → Option (Nat × Bool × Bool)
  | [] => some (0, hasDot, false)
  | c :: rest =>
    if c.isDigit ∨ c = '_' then (floatMantissa hasDot rest).map fun (n, d, e) => (n + 1, d, e)
    else if c = '.' then
      if hasDot then some (0, hasDot, false)
      else
        match rest with
        | d :: _ => if d = '.' ∨ Unicode.isIdentStart d then none
          else (floatMantissa true rest).map fun (n, dt, e) => (n + 1, dt, e)
        | [] => some (1, true, false)
    else if c = 'e' ∨ c = 'E' then some (1, hasDot, true)
    else some (0, hasDot, false)

/-- The digits of a float literal, without its suffix. -/
def floatDigits (s : List Char) : Option (List Char) :=
  match s with
  | c :: rest =>
    if !c.isDigit then none
    else
      match floatMantissa false rest with
      | none => none
      | some (n, hasDot, hasExp) =>
        let len := n + 1
        if !(hasDot || hasExp) then none
        else if !hasExp then some (s.drop len)
        else
          let beforeExp := if hasDot then some (s.drop (len - 1)) else none
          match exponentDigits false false (s.drop len) with
          | none => beforeExp
          | some (m, digit) => if digit then some (s.drop (len + m)) else beforeExp
  | [] => none

/-- A float literal. -/
def floatLit (s : List Char) : Option (List Char) :=
  (floatDigits s).bind fun rest =>
    match rest with
    | c :: _ => if Unicode.isIdentStart c then (identNotRaw rest).bind fun (_, r) => wordBreak r
      else wordBreak rest
    | [] => wordBreak rest

/-- The digits of an integer in `base`, with underscores; the characters read, or none when a
digit is too large for the base, an underscore starts a decimal, or no digit is read. -/
def intDigits (base : Nat) (empty : Bool) : List Char → Option (Nat × Bool)
  | [] => some (0, empty)
  | c :: rest =>
    if c.isDigit then
      if c.toNat - 48 ≥ base then none
      else (intDigits base false rest).map fun (n, e) => (n + 1, e)
    else if ('a' ≤ c ∧ c ≤ 'f') ∨ ('A' ≤ c ∧ c ≤ 'F') then
      if base ≤ 10 then some (0, empty)
      else (intDigits base false rest).map fun (n, e) => (n + 1, e)
    else if c = '_' then
      if empty ∧ base = 10 then none
      else (intDigits base empty rest).map fun (n, e) => (n + 1, e)
    else some (0, empty)

/-- An integer literal. -/
def intLit (s : List Char) : Option (List Char) :=
  let (base, body) :=
    if startsWith s "0x" then (16, s.drop 2)
    else if startsWith s "0o" then (8, s.drop 2)
    else if startsWith s "0b" then (2, s.drop 2)
    else (10, s)
  match intDigits base true body with
  | some (n, false) =>
    let rest := body.drop n
    match rest with
    | c :: _ => if Unicode.isIdentStart c then (identNotRaw rest).bind fun (_, r) => wordBreak r
      else wordBreak rest
    | [] => wordBreak rest
  | _ => none

/-- A literal of any kind: what follows it. -/
def literalRest (s : List Char) : Option (List Char) :=
  let after (p : Char) (k : QuotedKind) : Option (List Char) :=
    match s with
    | c :: rest => if c = p then quotedLit k rest else none
    | [] => none
  (quotedLit .text s).orElse fun _ => (after 'b' .bytes).orElse fun _ =>
    (after 'c' .cText).orElse fun _ => (byteLit s).orElse fun _ => (charLit s).orElse fun _ => (floatLit s).orElse fun _ => intLit s

/-- A punctuation character, with its spacing, and what follows. -/
def punctToken (s : List Char) : Option (Token × List Char) :=
  if startsWith s "//" || startsWith s "/*" then none
  else
    match s with
    | c :: rest =>
      if !isPunctChar c then none
      else if c = '\'' then
        match identAny rest with
        | some (_, r) =>
          if startsWith r "'" || (startsWith r "#" && !startsWith rest "r#") then none
          else some (.punct '\'' true, rest)
        | none => none
      else
        let joint := match rest with
          | d :: _ => isPunctChar d && !(startsWith rest "//" || startsWith rest "/*")
          | [] => false
        some (.punct c joint, rest)
    | [] => none

/-- One token that is not a delimiter. -/
def leafToken (s : List Char) : Option (Token × List Char) :=
  match literalRest s with
  | some rest => some (.literal (String.ofList (s.take (s.length - rest.length))), rest)
  | none =>
    match punctToken s with
    | some r => some r
    | none => (identToken s).map fun (name, rest) => (.ident name, rest)

/-- The text a compiler prints for code it could not read.  Written out in source, it is read
back as one literal token, not as parentheses around a comment. -/
def errorLiteral : String := "(/*ERROR*/)"

/-- A frame of the lexer: an open group's delimiter and the tokens before it. -/
abbrev Frame := Delimiter × List Token

/-- The delimiter a character opens. -/
def openingOf (c : Char) : Option Delimiter :=
  if c = '(' then some .paren else if c = '[' then some .bracket
  else if c = '{' then some .brace else none

/-- The delimiter a character closes. -/
def closingOf (c : Char) : Option Delimiter :=
  if c = ')' then some .paren else if c = ']' then some .bracket
  else if c = '}' then some .brace else none

/-- Splits `s` into tokens, the tokens so far (reversed) being `acc` inside the open groups
`stack`; at most `fuel` steps. -/
def lexFrom : Nat → List Frame → List Token → List Char → Option (List Token)
  | 0, _, _, _ => none
  | fuel + 1, stack, acc, s =>
    let s := skipWhitespace (s.length + 1) s
    match docCommentContents s with
    | some (text, inner, rest) =>
      if hasBareCr text then none
      else lexFrom fuel stack ((docTokens text inner).reverse ++ acc) rest
    | none =>
      match s with
      | [] => if stack.isEmpty then some acc.reverse else none
      | c :: rest =>
        if startsWith s errorLiteral then
          lexFrom fuel stack (.literal errorLiteral :: acc) (s.drop errorLiteral.length)
        else
        match openingOf c with
        | some d => lexFrom fuel ((d, acc) :: stack) [] rest
        | none =>
          match closingOf c with
          | some d =>
            match stack with
            | (d', outer) :: stack' =>
              if d' = d then lexFrom fuel stack' (.group d acc.reverse :: outer) rest else none
            | [] => none
          | none =>
            match leafToken s with
            | some (t, rest') => lexFrom fuel stack (t :: acc) rest'
            | none => none

/-- The tokens of a source text, or none when it cannot be split. -/
def lex (src : String) : Option (List Token) :=
  let s := match src.toList with
    | '\uFEFF' :: rest => rest
    | s => s
  lexFrom (s.length + 2) [] [] s

/-! ## Printing -/

/-- The text of tokens: one space between tokens, none after a joint punctuation character. -/
def render : List Token → String
  | [] => ""
  | [t] => renderOne t
  | t :: rest =>
    let sep := match t with
      | .punct _ true => ""
      | _ => " "
    renderOne t ++ sep ++ render rest
where
  /-- The text of one token. -/
  renderOne : Token → String
    | .group .paren body => "(" ++ render body ++ ")"
    | .group .bracket body => "[" ++ render body ++ "]"
    | .group .brace [] => "\x7b\x7d"
    | .group .brace body => "\x7b " ++ render body ++ " \x7d"
    | .ident n => n
    | .punct c _ => c.toString
    | .literal r => r

end EngineSdk.NetClass
