import EngineSdk.Panic

/-!
# Writing strings and keys as TOML

A string is written in one of four forms (`StringForm`): a basic string between double quote
marks, a literal string between apostrophes, or either of them over several lines between
tripled marks.  The choice depends on a few measured features of the text (`TextMetrics`): the
longest runs of apostrophes and of double quote marks, whether it has a backslash, a line break,
or a control character that only an escape can write (any but tab and line break).

`StringForm.choose` takes the first form that writes the text without escapes, in this order:
a one-line basic string, a one-line literal string, a multi-line basic string, a multi-line
literal string; when none does, a basic string with escapes, multi-line when the text has a line
break.  A multi-line string whose text has a line break starts with one, which a reader drops.

In a basic string a double quote mark is escaped when it would make a run longer than the form
allows (none on one line, two over several lines), and a backslash, a tab, a control character
and, on one line, a line break are escaped.  A tab alone does not rule out a form: every form
may hold it, and only the basic ones spell it as an escape.

A key is written bare when it is made only of letters, digits, `-` and `_`, and otherwise as a
one-line basic string, a literal string, or an escaped basic string, in that order.

The writer counts the current run of each quote mark in a byte, so a string value with a run of
more than 255 equal quote marks aborts the writing with an overflow (`TextMetrics.checked`).
-/

namespace EngineSdk.Toml

/-- The form a string is written in. -/
inductive StringForm where
  | basic
  | literal
  | multiBasic
  | multiLiteral
deriving Repr, DecidableEq

/-- What decides the form of a written string. -/
structure TextMetrics where
  /-- The longest run of apostrophes. -/
  singles : Nat
  /-- The longest run of double quote marks. -/
  doubles : Nat
  /-- A control character other than tab and line break. -/
  controls : Bool
  backslash : Bool
  newline : Bool

/-- The metrics of a text so far, with the current runs of apostrophes and double quote
marks. -/
structure MetricsScan where
  metrics : TextMetrics
  singleRun : Nat
  doubleRun : Nat

/-- The scan reads one more byte. -/
def MetricsScan.step (st : MetricsScan) (b : UInt8) : MetricsScan :=
  let singleRun := if b == 0x27 then st.singleRun + 1 else 0
  let doubleRun := if b == 0x22 then st.doubleRun + 1 else 0
  let m := st.metrics
  let m := { m with singles := max m.singles singleRun, doubles := max m.doubles doubleRun }
  let m :=
    if b == 0x5C then { m with backslash := true }
    else if b == 0x09 then m
    else if b == 0x0A then { m with newline := true }
    else if b ≤ 0x1F || b == 0x7F then { m with controls := true }
    else m
  ⟨m, singleRun, doubleRun⟩

/-- The metrics of a text. -/
def TextMetrics.of (value : String) : TextMetrics :=
  (value.toUTF8.toList.foldl MetricsScan.step ⟨⟨0, 0, false, false, false⟩, 0, 0⟩).metrics

namespace StringForm

/-- The form a string value is written in. -/
def choose (m : TextMetrics) : StringForm :=
  if !(m.controls || m.backslash || m.doubles > 0 || m.newline) then .basic
  else if !(m.controls || m.singles > 0 || m.newline) then .literal
  else if !(m.controls || m.backslash || m.doubles > 2) then .multiBasic
  else if !(m.controls || m.singles > 2) then .multiLiteral
  else if m.newline then .multiBasic
  else .basic

/-- The form a quoted key is written in. -/
def chooseForKey (m : TextMetrics) : StringForm :=
  if !(m.controls || m.backslash || m.doubles > 0 || m.newline) then .basic
  else if !(m.controls || m.singles > 0 || m.newline) then .literal
  else .basic

/-- The marks around a string of this form. -/
def delimiter : StringForm → String
  | .basic => "\""
  | .literal => "'"
  | .multiBasic => "\"\"\""
  | .multiLiteral => "'''"

/-- The form spans several lines. -/
def multiline : StringForm → Bool
  | .multiBasic | .multiLiteral => true
  | _ => false

/-- The form has escapes. -/
def escaped : StringForm → Bool
  | .basic | .multiBasic => true
  | _ => false

end StringForm

/-- Four uppercase hexadecimal digits. -/
def hex4 (n : Nat) : String :=
  let ds := Nat.toDigits 16 n
  let ds := ds.map Char.toUpper
  String.ofList (List.replicate (4 - ds.length) '0' ++ ds)

/-- The escape a character needs in a basic string, if any; a double quote mark is handled by
the run it is in. -/
def escapeOf (multiline : Bool) (ch : Char) : Option String :=
  if ch = '\x08' then some "\\b"
  else if ch = '\x0c' then some "\\f"
  else if ch = '\n' then (if multiline then none else some "\\n")
  else if ch = '\r' then some "\\r"
  else if ch = '\\' then some "\\\\"
  else if ch = '\t' then some "\\t"
  else if ch.toNat ≤ 0x1F ∨ ch.toNat = 0x7F then some ("\\u" ++ hex4 ch.toNat)
  else none

/-- The body of a basic string: `run` is the length of the run of double quote marks just
written, at most `maxRun` of which stay unescaped. -/
def escapeBody (multiline : Bool) (maxRun : Nat) : Nat → List Char → String
  | _, [] => ""
  | run, ch :: rest =>
    if ch = '"' then
      if run + 1 > maxRun then "\\\"" ++ escapeBody multiline maxRun 0 rest
      else "\"" ++ escapeBody multiline maxRun (run + 1) rest
    else
      match escapeOf multiline ch with
      | some e => e ++ escapeBody multiline maxRun 0 rest
      | none => ch.toString ++ escapeBody multiline maxRun 0 rest

/-- The text of a string in a form; `newline` starts a multi-line form with a line break. -/
def StringForm.render (form : StringForm) (newline : Bool) (value : String) : String :=
  let body :=
    if form.escaped then escapeBody form.multiline (if form.multiline then 2 else 0) 0 value.toList
    else value
  let start := if newline && form.multiline then "\n" else ""
  form.delimiter ++ start ++ body ++ form.delimiter

/-- The longest run of one quote mark the writer counts: its counter is a byte. -/
def runLimit : Nat := 255

/-- The metrics of a string value, or the overflow of a run counter when a run of one quote
mark is longer than `runLimit`. -/
def TextMetrics.checked (value : String) : Except Panic TextMetrics :=
  let m := TextMetrics.of value
  if m.singles > runLimit || m.doubles > runLimit then .error .addOverflow else .ok m

/-- The text of a string value, in the form its text asks for. -/
def stringRepr (value : String) : Except Panic String := do
  let m ← TextMetrics.checked value
  pure ((StringForm.choose m).render m.newline value)

/-- A byte allowed in a bare key: a letter, a digit, `-` or `_`. -/
def isBareKeyByte (b : UInt8) : Bool :=
  (b ≥ 0x41 && b ≤ 0x5A) || (b ≥ 0x61 && b ≤ 0x7A) || (b ≥ 0x30 && b ≤ 0x39) || b == 0x2D ||
    b == 0x5F

/-- The text of a key: bare when it can be, quoted on one line otherwise. -/
def keyRepr (key : String) : String :=
  if !key.isEmpty && key.toUTF8.toList.all isBareKeyByte then key
  else (StringForm.chooseForKey (TextMetrics.of key)).render false key

end EngineSdk.Toml
