import EngineSdk.Toml.Lexical

/-!
# TOML values

A value is recognised by its first byte: a quote mark starts a string, `[` an array, `{` an
inline table, a sign or a digit a date-time, a float or an integer (tried in that order), and
`t`, `f`, `i`, `n` the words `true`, `false`, `inf`, `nan`.  Anything else, and a misspelt
word, fails with the notes of a string, since a missing quote mark is the likeliest mistake; an
underscore or a point fails as a number missing its leading digit.

Arrays and inline tables nest.  Each level counts against a limit of 80, and the level that
reaches it fails committed with `recursion limit exceeded`; `valueAt` carries what is left of
the limit, which is also what makes its recursion structural.

An inline table is built from its key-value pairs by `InlineTable.insertPath`; a pair that does
not fit fails committed at the first pair.
-/

namespace EngineSdk.Toml

open Scan

/-- The notes of a value that could be a string missing its quote marks. -/
def stringNotes : List Note := [.label "string", .expected (.char '"'), .expected (.char '\'')]

/-- The failure of a level that reaches the nesting limit. -/
def tooDeep {α : Type} : Scan α := failWith true TableError.recursionLimit.message

/-- One value of an array, with the blanks, comments and line ends around it. -/
def arrayValue (value : Scan (Value × Span)) : Scan Value := do
  wsCommentNewline
  let (v, _) ← value
  wsCommentNewline
  pure v

/-- The values of an array, with an optional trailing comma. -/
def arrayValues (value : Scan (Value × Span)) : Scan (List Value) := do
  let items ← opt (do
    let vs ← sepBy1 (arrayValue value) (oneOf (· == 0x2C))
    let _ ← opt (oneOf (· == 0x2C))
    pure vs)
  wsCommentNewline
  pure (items.getD [])

/-- An array. -/
def arrayBody (value : Scan (Value × Span)) : Scan Value := do
  let _ ← oneOf (· == 0x5B)
  let items ← cut (arrayValues value)
  let _ ← expecting ']' (label "array" (cut (oneOf (· == 0x5D))))
  pure (.array items)

/-- A key, `=`, and a value, with blanks around the value: one pair of an inline table. -/
def inlineKeyval (value : Scan (Value × Span)) : Scan (List Key × Key × Value) := do
  let path ← key
  cut (do
    let _ ← expecting '=' (expecting '.' (oneOf (· == 0x3D)))
    ws
    let (v, _) ← value
    ws
    match path.getLast? with
    | some k => pure (path.dropLast, k, v)
    | none => fail)

/-- Puts the pairs of an inline table, in order, into one table. -/
def tableFromPairs (pairs : List (List Key × Key × Value)) : Except String Value :=
  match pairs.foldlM (fun es (path, k, v) =>
      InlineTable.insertPath false es (path.map Key.name) [] k.name v) [] with
  | .ok es => .ok (.inline false es)
  | .error e => .error e.message

/-- An inline table. -/
def inlineBody (value : Scan (Value × Span)) : Scan Value := do
  let _ ← oneOf (· == 0x7B)
  let t ← cut (tryMap (do
    let pairs ← sepBy (inlineKeyval value) (oneOf (· == 0x2C))
    ws
    pure pairs) tableFromPairs)
  let _ ← expecting '}' (label "inline table" (cut (oneOf (· == 0x7D))))
  pure t

/-- A value with its range, arrays and inline tables being read by `array` and `table`. -/
def valueWith (array table : Scan Value) : Scan (Value × Span) := do
  let (v, s, e) ← spanned (do
    let b ← peek anyByte
    if b == 0x22 || b == 0x27 then pure (.string (← string))
    else if b == 0x5B then array
    else if b == 0x7B then table
    else if isSign b || isDigit b then
      firstOf [do pure (.datetime (← dateTime)), do pure (.float (← float)),
        do pure (.integer (← integer))]
    else if b == 0x5F then
      note (.expected (.description "leading digit")) (do pure (.integer (← integer)))
    else if b == 0x2E then
      note (.expected (.description "leading digit")) (do pure (.float (← float)))
    else if b == byte 't' then withNotes stringNotes (do pure (.boolean (← trueWord)))
    else if b == byte 'f' then withNotes stringNotes (do pure (.boolean (← falseWord)))
    else if b == byte 'i' then withNotes stringNotes (do pure (.float (← infWord)))
    else if b == byte 'n' then withNotes stringNotes (do pure (.float (← nanWord)))
    else withNotes stringNotes fail)
  pure (v, ⟨s, e⟩)

/-- A value, with `budget` levels of nesting left before the limit. -/
def valueAt : Nat → Scan (Value × Span)
  | 0 => valueWith tooDeep tooDeep
  | 1 => valueWith tooDeep tooDeep
  | b + 2 => valueWith (arrayBody (valueAt (b + 1))) (inlineBody (valueAt (b + 1)))

/-- The nesting limit of arrays and inline tables. -/
def nestingLimit : Nat := 80

/-- A value at the top of a key-value pair. -/
def value : Scan (Value × Span) := valueAt nestingLimit

/-- A key-value pair on a line of its own: the path before the last key, the last key, the
value and its range. -/
def keyval : Scan (List Key × Key × Value × Span) := do
  let path ← key
  cut (do
    let _ ← expecting '=' (expecting '.' (oneOf (· == 0x3D)))
    ws
    let (v, span) ← value
    let _ ← expecting '#' (expecting '\n' lineTrailing)
    match path.getLast? with
    | some k => pure (path.dropLast, k, v, span)
    | none => fail)

end EngineSdk.Toml
