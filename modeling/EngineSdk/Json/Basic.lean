import EngineSdk.Decimal.Notation

/-!
# JSON values

`Json` is a JSON tree as it was read or as it will be written.  Numbers keep the distinction the
text makes: an integer literal is an exact `Int`, a literal with a fraction or an exponent (and a
negative zero) is a binary64 `Float`.  Objects keep their members in order, duplicates included;
`Json.get?` reads a member the way a map built from the members would, so a later duplicate
shadows an earlier one.

`Json.render` writes the compact text: strings are escaped as JSON requires, floats take the
fewest digits that read back, and an integral float keeps a `.0` so that it is read as a float
again.
-/

namespace EngineSdk

/-- A JSON number: an exact integer, or a binary64 value. -/
inductive Number where
  /-- An integer literal. -/
  | int (value : Int)
  /-- A literal with a fraction or an exponent, or a negative zero. -/
  | float (value : Float)

/-- A JSON value. -/
inductive Json where
  | null
  | bool (value : Bool)
  | num (value : Number)
  | str (value : String)
  | arr (items : List Json)
  | obj (members : List (String × Json))

/-- The number format of JSON output: positional from `1e-5` to below `1e16`, a signed exponent
outside (`1e+16`, `5e-324`).  JSON has no text for NaN or infinity; these two texts are never
written by `render`, which writes `null` then. -/
def Number.floatFormat : Decimal.Notation where
  plainFrom := -5
  plainBelow := 16
  nan := "NaN"
  inf := "inf"
  plusSign := true

/-- The text of a number; a non-finite float has none in JSON and is written `null`. -/
def Number.render : Number → String
  | .int i => Decimal.intText i
  | .float x => if x.isNaN || x.isInf then "null" else Number.floatFormat.render x

namespace Json

/-- An integer value. -/
def int (i : Int) : Json := .num (.int i)

/-- A float value. -/
def float (x : Float) : Json := .num (.float x)

/-- The value of member `key` of an object: the last member of that name. -/
def get? (j : Json) (key : String) : Option Json :=
  match j with
  | .obj ms => (ms.reverse.find? (fun m => m.1 == key)).map Prod.snd
  | _ => none

/-- The member names of an object, each once, in sorted order. -/
def keys (j : Json) : List String :=
  match j with
  | .obj ms => (ms.map Prod.fst).eraseDups.mergeSort (fun a b => decide (a ≤ b))
  | _ => []

/-- The members of an object as a map reads them: one per name, the last of each name, sorted
by name. -/
def entries (j : Json) : List (String × Json) :=
  j.keys.filterMap fun k => (j.get? k).map fun v => (k, v)

/-- The hexadecimal digit of a value below sixteen, in lower case. -/
def hexDigit (n : Nat) : Char :=
  if n < 10 then Char.ofNat (48 + n) else Char.ofNat (87 + n)

/-- A character inside a quoted JSON string: quote, backslash and control characters are
escaped, everything else stands for itself. -/
def escapeChar (c : Char) : List Char :=
  if c = '"' then ['\\', '"']
  else if c = '\\' then ['\\', '\\']
  else if c = '\n' then ['\\', 'n']
  else if c = '\r' then ['\\', 'r']
  else if c = '\t' then ['\\', 't']
  else if c.toNat = 8 then ['\\', 'b']
  else if c.toNat = 12 then ['\\', 'f']
  else if c.toNat < 32 then ['\\', 'u', '0', '0', hexDigit (c.toNat / 16), hexDigit (c.toNat % 16)]
  else [c]

/-- A string in JSON quotes. -/
def quote (s : String) : String :=
  String.ofList ('"' :: (s.toList.flatMap escapeChar ++ ['"']))

mutual

/-- The compact text of a value. -/
def render : Json → String
  | .null => "null"
  | .bool b => if b then "true" else "false"
  | .num n => n.render
  | .str s => quote s
  | .arr xs => "[" ++ renderItems xs ++ "]"
  | .obj ms => "\x7b" ++ renderMembers ms ++ "\x7d"

/-- The texts of array items, separated by commas. -/
def renderItems : List Json → String
  | [] => ""
  | [x] => render x
  | x :: xs => render x ++ "," ++ renderItems xs

/-- The texts of object members, separated by commas. -/
def renderMembers : List (String × Json) → String
  | [] => ""
  | [(k, v)] => quote k ++ ":" ++ render v
  | (k, v) :: ms => quote k ++ ":" ++ render v ++ "," ++ renderMembers ms

end

end Json

end EngineSdk
