import EngineSdk.Game.Codes
import EngineSdk.Panic
import EngineSdk.Text.CString

/-!
# Networked tables

The client describes every networked variable in receive tables.  A table has a name and a list
of properties; a property has a name, a type code and a byte offset into the entity, and a
property of type `DataTable` may point at a nested table, whose offsets are relative to the
property's own.  Every client class points at its top table, and the classes form a list.

Names are C strings: a missing name (a null pointer) matches nothing, and a name that is not
UTF-8 is shown as `<unnamed>`.  Tables are kept in one arena and refer to each other by index,
so a table may be reached from several places, or from itself.

Searches go at most `maxDepth` tables deep.  `findTable` looks at the classes' own tables first,
then searches below each class in turn, depth first, testing each nested table before going
into it.  `findProp` prefers a property of the table itself and otherwise tries the nested tables
in order; the offset of a nested property is the sum of the offsets on the way, taken in 32-bit
signed arithmetic, and a sum that leaves that range stops the search.
-/

namespace EngineSdk.Netvar

/-- How deep searches go below a starting table. -/
def maxDepth : Nat := 32

/-- The name of the property through which a table includes its base class's table. -/
def baseclassProp : String := "baseclass"

/-- A property of a receive table. -/
structure Property where
  name : CString
  /-- The type code; codes outside `PropKind` are kept as they are. -/
  code : Int
  /-- The byte offset within the entity, relative to the enclosing table. -/
  offset : Int
  /-- The nested table, by arena index. -/
  table : Option Nat
deriving Repr, DecidableEq

/-- A receive table: a name and its properties. -/
structure Table where
  name : CString
  props : List Property
deriving Repr, DecidableEq

/-- A client class: a name, its top table by arena index and its class id. -/
structure ClientClass where
  name : CString
  table : Option Nat
  id : Int
deriving Repr, DecidableEq

/-- Where a property lies and what type it has. -/
structure PropOffset where
  offset : Int
  kind : Option PropKind
deriving Repr, DecidableEq

namespace Property

/-- The type of a property, when its code is known. -/
def kind (p : Property) : Option PropKind := Coded.decode? p.code

/-- The nested table, followed only for a `DataTable` property. -/
def child (p : Property) : Option Nat :=
  if p.kind = some .dataTable then p.table else none

end Property

/-- The receive tables of a client, in one arena. -/
structure Arena where
  tables : List Table
deriving Repr

namespace Arena

/-- The table at an index. -/
def get? (a : Arena) (i : Nat) : Option Table := a.tables[i]?

/-- A nested table named `name` below table `t`, at most `fuel` levels down. -/
def findNested (a : Arena) (name : List UInt8) : Nat → Nat → Option Nat
  | 0, _ => none
  | fuel + 1, t =>
    match a.get? t with
    | none => none
    | some table =>
      table.props.findSome? fun p =>
        match p.child with
        | none => none
        | some c =>
          if ((a.get? c).map (·.name.sameAs name)).getD false then some c
          else a.findNested name fuel c

/-- The table named `name`: first among the classes' own tables, then below each class. -/
def findTable (a : Arena) (classes : List ClientClass) (name : List UInt8) : Option Nat :=
  match classes.findSome? fun c =>
      c.table.bind fun t => if ((a.get? t).map (·.name.sameAs name)).getD false then some t
        else none with
  | some t => some t
  | none => classes.findSome? fun c => c.table.bind (a.findNested name (maxDepth + 1))

/-- The property named `prop` in table `t` or below it, at most `fuel` levels down. -/
def findPropAt (a : Arena) (prop : List UInt8) : Nat → Nat → Except Panic (Option PropOffset)
  | 0, _ => .ok none
  | fuel + 1, t =>
    match a.get? t with
    | none => .ok none
    | some table =>
      match table.props.find? (·.name.sameAs prop) with
      | some p => .ok (some ⟨p.offset, p.kind⟩)
      | none =>
        let step (found : Option PropOffset) (p : Property) : Except Panic (Option PropOffset) :=
          match found, p.child with
          | some f, _ => .ok (some f)
          | none, none => .ok none
          | none, some c => do
            match ← a.findPropAt prop fuel c with
            | none => .ok none
            | some inner => do
              let off ← Panic.addSigned 32 p.offset inner.offset
              .ok (some ⟨off, inner.kind⟩)
        table.props.foldlM step none

/-- The property named `prop` in a table or below it. -/
def findProp (a : Arena) (t : Option Nat) (prop : List UInt8) : Except Panic (Option PropOffset) :=
  match t with
  | some t => a.findPropAt prop (maxDepth + 1) t
  | none => .ok none

/-- The text of a 32-bit offset in listings: `0x` and lower-case hexadecimal digits, negative
values as their two's complement. -/
def offsetText (v : Int) : String :=
  let n := if v < 0 then (v + (Nat.pow 2 32 : Int)).toNat else v.toNat
  "0x" ++ String.ofList (Nat.toDigits 16 n)

/-- The type of a property as listed: `Some(Kind)` or `None`. -/
def kindText (k : Option PropKind) : String :=
  match k with
  | some k => "Some(" ++ Coded.label k ++ ")"
  | none => "None"

/-- The listing of table `t` at nesting level `depth` with base offset `base`, at most `fuel`
levels down: the table's name, then each property with its absolute offset and type, each
nested table after its property and indented one level more. -/
def dumpAt (a : Arena) : Nat → Nat → Nat → Int → Except Panic (List String)
  | 0, _, _, _ => .ok []
  | fuel + 1, depth, t, base =>
    match a.get? t with
    | none => .ok []
    | some table => do
      let indent := String.join (List.replicate depth "  ")
      let step (acc : List String) (p : Property) : Except Panic (List String) := do
        let at_ ← Panic.addSigned 32 base p.offset
        let line := indent ++ "  " ++ p.name.shown ++ " @ " ++ offsetText at_ ++ " (" ++
          kindText p.kind ++ ")"
        match p.child with
        | none => .ok (acc ++ [line])
        | some c => do
          let inner ← a.dumpAt fuel (depth + 1) c at_
          .ok (acc ++ [line] ++ inner)
      table.props.foldlM step [indent ++ table.name.shown]

/-- The listing of a table. -/
def dump (a : Arena) (t : Option Nat) : Except Panic (List String) :=
  match t with
  | some t => a.dumpAt (maxDepth + 1) 0 t 0
  | none => .ok []

end Arena

end EngineSdk.Netvar
