import EngineSdk.Toml.Grammar
import EngineSdk.Toml.Report

/-!
# Reading a TOML document

A document is read line by line into a `Builder`: the finished root table, the table now being
filled (the one the last header opened, or the root before any header), the header's path, and
whether the header opened an element of an array of tables.

* A key-value pair goes into the table being filled, through the tables of its dotted path
  (made implicit and dotted when missing).  The pair fails when its key is there already, and
  when the table at the end of the path was made by the other means than the path says (a
  dotted path ending in a table no dotted key made, or the reverse).
* A header `[a.b]` first puts the table being filled in its place, then opens `b` below `a`,
  taking over an implicit table `b` that no dotted key made, and failing on any other `b`.
* A header `[[a.b]]` does the same for a new element of the array of tables `b`, failing when
  `b` is anything else.

A failure of these rules is reported at the start of the line that caused it; a failure to read
is reported where reading stopped.  `parse` gives the root table or the error.
-/

namespace EngineSdk.Toml

open Scan

/-- A document being read. -/
structure Builder where
  root : Table
  /-- The table being filled. -/
  current : Table
  /-- The header path of the table being filled; empty before the first header. -/
  path : List Key
  /-- The table being filled is an element of an array of tables. -/
  isArray : Bool

/-- A new table, neither implicit nor dotted. -/
def Table.empty : Table := ⟨⟨false, false, none, none⟩, []⟩

/-- The builder at the start of a document. -/
def Builder.initial : Builder := ⟨Table.empty, Table.empty, [], false⟩

namespace Builder

/-- Puts `key = v` into the table being filled, through `path`. -/
def onKeyval (b : Builder) (path : List Key) (key : Key) (v : Value) (span : Span) :
    Except TableError Builder :=
  let info := b.current.info
  let info := match info.span with
    | some s => { info with span := some ⟨s.start, span.stop⟩ }
    | none => info
  let current := { b.current with info := info }
  match current.descend path true [] (fun t =>
      if t.info.dotted == path.isEmpty then .error (.duplicateKey key.name none)
      else if (Entries.find? t.entries key.name).isSome then
        .error (.duplicateKey key.name (some (b.path.map Key.name)))
      else .ok ({ t with entries := t.entries ++ [(key, .value v span)] }, ())) with
  | .ok (current, ()) => .ok { b with current := current }
  | .error e => .error e

/-- Puts the table being filled in its place below the root. -/
def finalize (b : Builder) : Except TableError Builder :=
  let table := b.current
  let cleared := { b with current := Table.empty, path := [] }
  match b.path.getLast? with
  | none => .ok { cleared with root := table }
  | some last =>
    let parentPath := b.path.dropLast
    let index := parentPath.length
    let placed := b.root.descend parentPath false [] fun parent =>
      match Entries.find? parent.entries last.name with
      | none =>
        let item := if b.isArray then Item.tables [(table.info, table.entries)] else table.toItem
        .ok ({ parent with entries := parent.entries ++ [(last, item)] }, ())
      | some (.tables ts) =>
        if b.isArray then
          let entries := Entries.put parent.entries last (.tables (ts ++ [(table.info, table.entries)]))
          .ok ({ parent with entries := entries }, ())
        else .error (TableError.duplicateAt b.path index)
      | some (.table info _) =>
        if !b.isArray && info.implicit then
          .ok ({ parent with entries := Entries.put parent.entries last table.toItem }, ())
        else .error (TableError.duplicateAt b.path index)
      | some (.value _ _) => .error (TableError.duplicateAt b.path index)
    match placed with
    | .ok (root, ()) => .ok { cleared with root := root }
    | .error e => .error e

/-- Opens the table of a `[path]` header written over `span`. -/
def startTable (b : Builder) (path : List Key) (span : Span) : Except TableError Builder :=
  match path.getLast? with
  | none => .ok b
  | some last =>
    let taken := b.root.descend path.dropLast false [] fun parent =>
      match Entries.find? parent.entries last.name with
      | none => .ok (parent, none)
      | some (.table info entries) =>
        if info.implicit && !info.dotted then
          .ok ({ parent with entries := Entries.remove parent.entries last.name },
            some (Table.mk info entries))
        else .error (TableError.duplicateAt path (path.length - 1))
      | some _ => .error (TableError.duplicateAt path (path.length - 1))
    match taken with
    | .ok (root, old) =>
      let entries := (old.map Table.entries).getD []
      let current : Table := ⟨⟨false, false, some span, some span⟩, entries⟩
      .ok { b with root := root, current := current, path := path, isArray := false }
    | .error e => .error e

/-- Opens a new element for a `[[path]]` header written over `span`. -/
def startArrayTable (b : Builder) (path : List Key) (span : Span) : Except TableError Builder :=
  match path.getLast? with
  | none => .ok b
  | some last =>
    let made := b.root.descend path.dropLast false [] fun parent =>
      match Entries.find? parent.entries last.name with
      | none => .ok ({ parent with entries := parent.entries ++ [(last, .tables [])] }, ())
      | some (.tables _) => .ok (parent, ())
      | some _ => .error (TableError.duplicateAt path (path.length - 1))
    match made with
    | .ok (root, ()) =>
      let current : Table := ⟨⟨false, false, some span, some span⟩, []⟩
      .ok { b with root := root, current := current, path := path, isArray := true }
    | .error e => .error e

/-- A `[path]` header. -/
def onStdHeader (b : Builder) (path : List Key) (span : Span) : Except TableError Builder := do
  let b ← b.finalize
  b.startTable path span

/-- A `[[path]]` header. -/
def onArrayHeader (b : Builder) (path : List Key) (span : Span) : Except TableError Builder := do
  let b ← b.finalize
  b.startArrayTable path span

end Builder

/-- Applies a builder step to what `s` read; a failing step fails softly where `s` started. -/
def building {α : Type} (s : Scan α) (step : α → Except TableError Builder) : Scan Builder :=
  tryMap s fun a => match step a with
    | .ok b => .ok b
    | .error e => .error e.message

/-- A header, `[` or `[[`, its path and its closing marks, the range of all of it, and the rest
of its line. -/
def header (opening closing : String) : Scan (List Key × Span) := do
  let (path, s, e) ← spanned (do
    text opening
    let path ← cut key
    let _ ← note (.expected (.literal closing)) (expecting '.' (cut (text closing)))
    pure path)
  let _ ← expecting '#' (expecting '\n' (cut lineTrailing))
  pure (path, ⟨s, e⟩)

/-- A table header line. -/
def tableHeader (b : Builder) : Scan Builder :=
  label "table header" (do
    let two ← peek (taken (do let _ ← anyByte; let _ ← anyByte))
    if two == [0x5B, 0x5B] then
      building (header "[[" "]]") fun (path, span) => b.onArrayHeader path span
    else building (header "[" "]") fun (path, span) => b.onStdHeader path span)

/-- One line's worth of a document, and the blanks after it. -/
def documentStep (b : Builder) : Scan Builder := do
  let first ← peek anyByte
  let b ← if first == 0x23 then do cut (do comment; lineEnding); pure b
    else if first == 0x5B then cut (tableHeader b)
    else if first == 0x0A || first == 0x0D then do newline; pure b
    else cut (building keyval fun (path, k, v, span) => b.onKeyval path k v span)
  ws
  pure b

/-- Document steps, at most `fuel`, until one fails softly, which rewinds it. -/
def documentFuel : Nat → Builder → Scan Builder
  | 0, b => pure b
  | fuel + 1, b => fun src p =>
    match documentStep b src p with
    | .ok (b', q) => if q ≤ p then .ok (b', q) else documentFuel fuel b' src q
    | .error f => if f.cut then .error f else .ok (b, p)

/-- A whole document: an optional byte-order mark, blanks, lines, and the end. -/
def document : Scan Builder := do
  let _ ← opt (literal [0xEF, 0xBB, 0xBF])
  ws
  let b ← fun src p => documentFuel (src.size - p + 1) Builder.initial src p
  atEnd
  pure b

/-- The root table of a document, or the error that stops reading it. -/
def parse (raw : String) : Except DocError Table :=
  let src := raw.toUTF8.data
  match document.run src with
  | .error f => .error ⟨f.message, some (failureSpan src f.pos)⟩
  | .ok (b, _) =>
    match b.finalize with
    | .ok b => .ok b.root
    | .error e => .error ⟨e.message, none⟩

end EngineSdk.Toml
