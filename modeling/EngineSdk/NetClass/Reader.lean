import EngineSdk.NetClass.Literal

/-!
# Reading tokens

Items are read from token trees by a reader: the tokens left at the current level, the
delimiter of the group being read (none at the top), and the first group that was left with
tokens unread.  A group read to its end leaves nothing behind; one with tokens left over is
remembered, and reported as `unexpected token, expected )` (with the group's closing delimiter)
once the whole item has been read, unless an error came first.

An error raised where no token is left reads `unexpected end of input, ` before its text,
except the errors of punctuation, which never do.  When several kinds of token would do, the
error lists what was looked for: `expected a`, `expected a or b`, or `expected one of: a, b, c`.

Words that are keywords are not identifiers; a raw identifier (`r#type`) is.  A lifetime is a
joint quote mark followed by an identifier, and counts as one token.

Printed forms are lists of units, written with one space between units: a multi-character
operator or a lifetime is one unit, and a group is one unit holding its own printed content.
-/

namespace EngineSdk.NetClass

/-- The words that cannot be identifiers. -/
def keywords : List String :=
  ["_", "abstract", "as", "async", "await", "become", "box", "break", "const", "continue",
    "crate", "do", "dyn", "else", "enum", "extern", "false", "final", "fn", "for", "if", "impl",
    "in", "let", "loop", "macro", "match", "mod", "move", "mut", "override", "priv", "pub", "ref",
    "return", "Self", "self", "static", "struct", "super", "trait", "true", "try", "type",
    "typeof", "unsafe", "unsized", "use", "virtual", "where", "while", "yield"]

/-- Printed units. -/
abbrev Units := List String

/-- The text of printed units. -/
def Units.text (u : Units) : String := " ".intercalate u

/-- A group's unit: its delimiters around its printed content. -/
def groupUnit (d : Delimiter) (inner : Units) : String :=
  match d with
  | .paren => "(" ++ inner.text ++ ")"
  | .bracket => "[" ++ inner.text ++ "]"
  | .brace => if inner.isEmpty then "\x7b\x7d" else "\x7b " ++ inner.text ++ " \x7d"

/-- A group's unit with its tokens printed as they were read. -/
def sourceGroupUnit (d : Delimiter) (body : List Token) : String :=
  render [.group d body]

/-- The closing delimiter of a group. -/
def Delimiter.closing : Delimiter → String
  | .paren => ")"
  | .bracket => "]"
  | .brace => "\x7d"

/-- How a parse error names a group. -/
def Delimiter.noun : Delimiter → String
  | .paren => "parentheses"
  | .bracket => "square brackets"
  | .brace => "curly braces"

/-! ## Looking at tokens -/

namespace Tokens

/-- The identifier (or keyword) first in `ts`. -/
def word? : List Token → Option String
  | .ident n :: _ => some n
  | _ => none

/-- `ts` starts with the word `w`. -/
def isWord (w : String) (ts : List Token) : Bool := word? ts == some w

/-- `ts` starts with an identifier that is not a keyword. -/
def isIdent (ts : List Token) : Bool :=
  match word? ts with
  | some n => !keywords.contains n
  | none => false

/-- `ts` starts with any identifier, keywords included. -/
def isAnyIdent (ts : List Token) : Bool := (word? ts).isSome

/-- The lifetime first in `ts`, as printed. -/
def lifetime? : List Token → Option String
  | .punct '\'' true :: .ident n :: _ => some ("'" ++ n)
  | _ => none

/-- `ts` starts with the punctuation `s`, every character but the last joint to the next. -/
def isPunct (s : String) (ts : List Token) : Bool :=
  go s.toList ts
where
  /-- The characters `cs` start `ts`. -/
  go : List Char → List Token → Bool
    | [], _ => false
    | [c], .punct d _ :: _ => c = d && d != '\''
    | c :: cs, .punct d joint :: rest => c = d && d != '\'' && joint && go cs rest
    | _, _ => false

/-- The body of the group of delimiter `d` first in `ts`. -/
def group? (d : Delimiter) : List Token → Option (List Token)
  | .group d' body :: _ => if d' = d then some body else none
  | _ => none

/-- `ts` without its first token tree, a lifetime counting as one. -/
def tail (ts : List Token) : List Token :=
  match lifetime? ts with
  | some _ => ts.drop 2
  | none => ts.drop 1

/-- `ts` starts with a literal. -/
def isLit (ts : List Token) : Bool := (litAt ts).isSome

end Tokens

/-! ## The reader -/

/-- Where reading stands. -/
structure Reader where
  /-- The tokens left at the current level. -/
  rest : List Token
  /-- The delimiter of the group being read; none at the top. -/
  scope : Option Delimiter
  /-- The report of the first group left with tokens unread. -/
  stray : Option String

/-- Reading that may fail with a message. -/
abbrev Parse := StateT Reader (Except String)

namespace Parse

/-- The tokens left. -/
def rest : Parse (List Token) := do return (← get).rest

/-- Fails with `msg`, saying first that the input ended when no token is left. -/
def failHere {α : Type} (msg : String) : Parse α := do
  if (← rest).isEmpty then throw ("unexpected end of input, " ++ msg) else throw msg

/-- Fails because none of the kinds of token `names` is next. -/
def expected {α : Type} (names : List String) : Parse α :=
  match names with
  | [] => do if (← rest).isEmpty then throw "unexpected end of input" else throw "unexpected token"
  | [a] => failHere ("expected " ++ a)
  | [a, b] => failHere ("expected " ++ a ++ " or " ++ b)
  | _ => failHere ("expected one of: " ++ ", ".intercalate names)

/-- Drops `n` tokens. -/
def drop (n : Nat) : Parse Unit := modify fun r => { r with rest := r.rest.drop n }

/-- Looks at the tokens left. -/
def peek (f : List Token → Bool) : Parse Bool := do return f (← rest)

/-- No token is left. -/
def isEmpty : Parse Bool := peek List.isEmpty

/-- Reads the keyword `w`. -/
def word (w : String) : Parse Unit := do
  if Tokens.isWord w (← rest) then drop 1 else failHere ("expected `" ++ w ++ "`")

/-- Reads the punctuation `s`; its failure never speaks of the end of input. -/
def punct (s : String) : Parse Unit := do
  if Tokens.isPunct s (← rest) then drop s.length else throw ("expected `" ++ s ++ "`")

/-- Reads the punctuation `s` when it is next. -/
def punct? (s : String) : Parse Bool := do
  if Tokens.isPunct s (← rest) then drop s.length; return true else return false

/-- Reads an identifier that is not a keyword. -/
def ident : Parse String := do
  match Tokens.word? (← rest) with
  | some n =>
    if keywords.contains n then failHere ("expected identifier, found keyword `" ++ n ++ "`")
    else do drop 1; return n
  | none => failHere "expected identifier"

/-- Reads any identifier, keywords included. -/
def anyIdent : Parse String := do
  match Tokens.word? (← rest) with
  | some n => do drop 1; return n
  | none => failHere "expected ident"

/-- Reads a lifetime. -/
def lifetime : Parse String := do
  match Tokens.lifetime? (← rest) with
  | some l => do drop 2; return l
  | none => failHere "expected lifetime"

/-- Reads the group of delimiter `d` with `p`, which need not read all of it. -/
def inGroup {α : Type} (d : Delimiter) (p : Parse α) : Parse α := do
  let r ← get
  match Tokens.group? d r.rest with
  | none => failHere ("expected " ++ d.noun)
  | some body =>
    set ({ r with rest := body, scope := some d } : Reader)
    let a ← p
    let inner ← get
    let stray := match inner.stray with
      | some s => some s
      | none => if inner.rest.isEmpty then none
        else some ("unexpected token, expected `" ++ d.closing ++ "`")
    set ({ rest := r.rest.drop 1, scope := r.scope, stray := stray } : Reader)
    return a

/-- Reads a group of any delimiter whole, as printed from its tokens. -/
def sourceGroup : Parse (Option String) := do
  match (← rest) with
  | .group d body :: _ => do drop 1; return some (sourceGroupUnit d body)
  | _ => return none

/-- Runs `p` on `ts`, at the top, giving what it read, or the first error: its own, or a group
left with tokens unread, or tokens left over at the end. -/
def run {α : Type} (p : Parse α) (ts : List Token) : Except String α :=
  match StateT.run p ({ rest := ts, scope := none, stray := none } : Reader) with
  | .error e => .error e
  | .ok (a, r) =>
    match r.stray with
    | some s => .error s
    | none => if r.rest.isEmpty then .ok a else .error "unexpected token"

end Parse

end EngineSdk.NetClass
