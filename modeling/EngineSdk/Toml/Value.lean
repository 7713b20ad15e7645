import EngineSdk.Toml.Quote

/-!
# TOML documents

A document is a table of items.  An item is a value, a table, or an array of tables; a value is
a string, an integer, a float, a boolean, a date-time, an array of values, or an inline table.
Every value read from a document keeps its byte range (`Span`), and every key the range of its
text, so that errors about them can point into the document.

A table remembers how it came to be: `implicit` when it was only named on the way to another
table (`[a.b]` makes `a`), `dotted` when a dotted key made it (`a.b = 1` makes `a`).  These two
marks decide which later definitions are allowed:

* a dotted key may pass through an implicit table, but not through one defined by a header;
* a header may take over an implicit table that no dotted key made, but may not define a table
  twice.

`Table.descend` walks a path of keys below a table, making the missing tables, and changes the
table at its end; it fails when a key names a value, and when a dotted walk meets an explicit
table.  `InlineTable.insertPath` does the same inside an inline table.
-/

namespace EngineSdk.Toml

/-- A byte range of the document, `start` included, `stop` excluded. -/
structure Span where
  start : Nat
  stop : Nat
deriving Repr, DecidableEq

/-- The offset of a date-time from UTC. -/
inductive Offset where
  /-- `Z`. -/
  | utc
  /-- A signed number of minutes. -/
  | minutes (m : Int)
deriving Repr, DecidableEq

/-- A date, a time, or both, with an offset when both are given. -/
structure Datetime where
  /-- Year, month and day. -/
  date : Option (Nat × Nat × Nat)
  /-- Hour, minute, second and nanosecond. -/
  time : Option (Nat × Nat × Nat × Nat)
  offset : Option Offset
deriving Repr, DecidableEq

/-- A TOML value. -/
inductive Value where
  | string (s : String)
  | integer (n : Int)
  | float (x : Float)
  | boolean (b : Bool)
  | datetime (d : Datetime)
  | array (items : List Value)
  /-- An inline table; `dotted` when a dotted key inside another inline table made it. -/
  | inline (dotted : Bool) (entries : List (String × Value))

/-- The name of the type of a value, as errors name it. -/
def Value.typeName : Value → String
  | .string _ => "string"
  | .integer _ => "integer"
  | .float _ => "float"
  | .boolean _ => "boolean"
  | .datetime _ => "datetime"
  | .array _ => "array"
  | .inline _ _ => "inline table"

/-- A key with the range of its text. -/
structure Key where
  name : String
  span : Span
deriving Repr, DecidableEq

/-- How a table came to be, and where it was written. -/
structure TableInfo where
  /-- Only named on the way to another table. -/
  implicit : Bool
  /-- Made by a dotted key. -/
  dotted : Bool
  /-- The header and the values below it, when a header wrote it. -/
  span : Option Span
  /-- The header alone, when a header wrote it. -/
  header : Option Span

/-- An entry of a table. -/
inductive Item where
  | value (v : Value) (span : Span)
  | table (info : TableInfo) (entries : List (Key × Item))
  | tables (list : List (TableInfo × List (Key × Item)))

/-- A table: its marks and its entries in order. -/
structure Table where
  info : TableInfo
  entries : List (Key × Item)

/-- Why a document's definitions do not fit together. -/
inductive TableError where
  /-- A key defined twice; with the path of the table it is in, when that is known. -/
  | duplicateKey (key : String) (table : Option (List String))
  /-- A dotted key or a header passing through a value. -/
  | extendWrongType (path : List String) (actual : String)
  | outOfRange
  | recursionLimit
deriving Repr, DecidableEq

/-- The text of a table error. -/
def TableError.message : TableError → String
  | .duplicateKey k none => "duplicate key `" ++ k ++ "`"
  | .duplicateKey k (some []) => "duplicate key `" ++ k ++ "` in document root"
  | .duplicateKey k (some t) => "duplicate key `" ++ k ++ "` in table `" ++ ".".intercalate t ++ "`"
  | .extendWrongType p a =>
    "dotted key `" ++ ".".intercalate p ++ "` attempted to extend non-table type (" ++ a ++ ")"
  | .outOfRange => "value is out of range"
  | .recursionLimit => "recursion limit exceeded"

/-- The error for the `i`-th key of a path being defined twice: the key as written, in the table
of the keys before it. -/
def TableError.duplicateAt (path : List Key) (i : Nat) : TableError :=
  .duplicateKey (keyRepr ((path[i]?.map Key.name).getD "")) (some ((path.take i).map Key.name))

namespace Entries

variable {α : Type}

/-- The entry of a name. -/
def find? (es : List (Key × α)) (name : String) : Option α :=
  (es.find? (·.1.name == name)).map Prod.snd

/-- Sets the entry of a key: in place, keeping the key first written, when the name is there,
at the end otherwise. -/
def put (es : List (Key × α)) (k : Key) (a : α) : List (Key × α) :=
  if es.any (·.1.name == k.name) then es.map fun e => if e.1.name == k.name then (e.1, a) else e
  else es ++ [(k, a)]

/-- Removes the entry of a name, keeping the order of the others. -/
def remove (es : List (Key × α)) (name : String) : List (Key × α) :=
  es.filter (·.1.name != name)

end Entries

/-- A table made on the way to another: implicit, and dotted when a dotted key made it. -/
def Table.made (dotted : Bool) : Table := ⟨⟨true, dotted, none, none⟩, []⟩

/-- The item of a table. -/
def Table.toItem (t : Table) : Item := .table t.info t.entries

namespace Table

variable {α : Type}

/-- Walks `path` below `t`, making missing tables, and applies `f` to the table at its end,
putting the changed tables back.  The last table of an array of tables is the one walked
into.  `before` is the part of the path already walked, for errors. -/
def descend (t : Table) (path : List Key) (dotted : Bool) (before : List Key)
    (f : Table → Except TableError (Table × α)) : Except TableError (Table × α) :=
  match path with
  | [] => f t
  | k :: rest =>
    let entry := (Entries.find? t.entries k.name).getD (Table.made dotted).toItem
    match entry with
    | .value v _ => .error (.extendWrongType ((before ++ [k]).map Key.name) v.typeName)
    | .tables list =>
      let (init, last) := match list.getLast? with
        | some l => (list.dropLast, l)
        | none => ([], ((Table.made dotted).info, []))
      match descend ⟨last.1, last.2⟩ rest dotted (before ++ [k]) f with
      | .ok (child, a) =>
        .ok ({ t with entries := Entries.put t.entries k (.tables (init ++ [(child.info, child.entries)])) }, a)
      | .error e => .error e
    | .table info entries =>
      if dotted && !info.implicit then .error (.duplicateKey k.name none)
      else
        match descend ⟨info, entries⟩ rest dotted (before ++ [k]) f with
        | .ok (child, a) => .ok ({ t with entries := Entries.put t.entries k child.toItem }, a)
        | .error e => .error e

end Table

/-- Walks `path` below the entries of an inline table, making missing inline tables, and puts
`key = v` in the table at its end.  A dotted key may pass only through tables that dotted keys
made, and a key may be defined once. -/
def InlineTable.insertPath (dotted : Bool) (es : List (String × Value)) (path : List String)
    (before : List String) (key : String) (v : Value) :
    Except TableError (List (String × Value)) :=
  match path with
  | [] =>
    if dotted == before.isEmpty then .error (.duplicateKey key none)
    else if (es.lookup key).isSome then .error (.duplicateKey key none)
    else .ok (es ++ [(key, v)])
  | k :: rest =>
    match (es.lookup k).getD (.inline true []) with
    | .inline childDotted entries =>
      if !childDotted then .error (.duplicateKey k none)
      else
        match InlineTable.insertPath childDotted entries rest (before ++ [k]) key v with
        | .ok entries' =>
          let item := Value.inline childDotted entries'
          if (es.lookup k).isSome then
            .ok (es.map fun e => if e.1 == k then (k, item) else e)
          else .ok (es ++ [(k, item)])
        | .error e => .error e
    | other => .error (.extendWrongType (before ++ [k]) other.typeName)

end EngineSdk.Toml
