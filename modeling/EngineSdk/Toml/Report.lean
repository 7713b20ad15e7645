import EngineSdk.Toml.Value

/-!
# Reporting an error in a document

An error about a document has a message and, usually, a byte range of the document.  Its text
names the line and column where the range starts, quotes that line, and underlines the range
with carets below it:

```
TOML parse error at line 1, column 11
  |
1 | version = "1"
  |           ^^^
invalid type: string "1", expected u32
```

The column counts characters from the start of the line, except when the bytes from the line
start through the byte at the range start are not valid UTF-8 (the range starts inside or at the
first byte of a longer character); it then counts bytes.  A range starting at the end of the
document is placed after its last byte.  The underline is as long as the range, cut at the end
of the quoted line (in bytes, less the column), and at least one caret long.
-/

namespace EngineSdk.Toml

/-- An error about a document: its message and the range it is about, if any. -/
structure DocError where
  message : String
  span : Option Span
deriving Repr, DecidableEq

/-- The index of the last line feed before `index`, if any. -/
def lastNewlineBefore (input : Array UInt8) (index : Nat) : Option Nat :=
  ((List.range index).filter fun i => input[i]? == some 0x0A).getLast?

/-- The line and column, both from zero, of byte `index`. -/
def translatePosition (input : Array UInt8) (index : Nat) : Nat × Nat :=
  if input.size = 0 then (0, index)
  else
    let safe := min index (input.size - 1)
    let beyond := index - safe
    let lineStart := match lastNewlineBefore input safe with
      | some nl => nl + 1
      | none => 0
    let line := ((List.range lineStart).filter fun i => input[i]? == some 0x0A).length
    let column := match String.fromUTF8? (ByteArray.mk (input.extract lineStart (safe + 1))) with
      | some s => s.length - 1
      | none => safe - lineStart
    (line, column + beyond)

/-- `n` spaces. -/
def spaces (n : Nat) : String := String.ofList (List.replicate n ' ')

/-- The text of an error about the document `raw`. -/
def DocError.render (e : DocError) (raw : String) : String :=
  match e.span with
  | none => e.message ++ "\n"
  | some sp =>
    let (line, column) := translatePosition raw.toUTF8.data sp.start
    let lineNum := toString (line + 1)
    let gutter := lineNum.length
    let content := ((raw.splitOn "\n")[line]?).getD ""
    let highlight := min (sp.stop - sp.start) (content.utf8ByteSize - column)
    "TOML parse error at line " ++ lineNum ++ ", column " ++ toString (column + 1) ++ "\n" ++
      spaces (gutter + 1) ++ "|\n" ++
      lineNum ++ " | " ++ content ++ "\n" ++
      spaces (gutter + 1) ++ "|" ++ spaces (column + 1) ++ "^" ++
        String.ofList (List.replicate (highlight - 1) '^') ++ "\n" ++
      e.message ++ "\n"

/-- The range of a reading failure at byte `offset`: the character starting there, or nothing
at the end of the document. -/
def failureSpan (input : Array UInt8) (offset : Nat) : Span :=
  if input.size ≤ offset then ⟨offset, offset⟩
  else
    let rest := (List.range 4).map (fun i => offset + 1 + i)
    let boundary (i : Nat) : Bool := match input[i]? with
      | some (b : UInt8) => b < 0x80 || 0xC0 ≤ b
      | none => true
    let stop := (rest.find? boundary).getD (offset + 1)
    ⟨offset, stop⟩

end EngineSdk.Toml
