import EngineSdk.NetClass.Item
import EngineSdk.Text.Similarity

/-!
# Derive arguments

The derive reads its settings from attributes: `#[netclass(table = "...")]` on the struct, and
`#[netprop(prop = "...", table = "...", readonly)]` on fields.  An attribute's list holds
items separated by commas: a literal, or a name (a path, keywords allowed) alone, followed by
a group, or followed by `= value`.  A value that is a literal ending the list is that literal;
any other value is read as an expression.

A setting is checked against what it must be:

* a string must be a string literal; a word, a list, another literal or an expression is
  refused, naming its format (`word`, `list`) or type (`int`, `bool`, `path`, `unary`, ...);
* a flag is `true` alone, or a boolean literal, or the string `"true"` or `"false"`.

Errors are gathered, not stopped at: for the struct, every item of every `netclass`
attribute in order (unknown names, with the closest known name suggested; repeated names;
literals; bad values; lists that cannot be read; `#[netclass = ...]`), then the shape of the
item (only a struct with named fields will do), then a missing `table`.  Only when the struct
passes are the fields read, each field's errors gathered in order.
-/

namespace EngineSdk.NetClass

/-- What a named item of an attribute's list holds. -/
inductive Setting where
  | word
  | list (tokens : List Token)
  | lit (l : Lit)
  | expr (kind : String)
deriving Repr

/-- An item of an attribute's list. -/
inductive Nested where
  | lit
  | named (name : String) (setting : Setting)
deriving Repr

/-- The literal an expression of kind `lit` was written as. -/
def Lit.ofText (text : String) : Lit :=
  if text == "true" then .bool true else if text == "false" then .bool false else Lit.ofRepr text

section Rules
open Parse

/-- More `::` segments of an item's name. -/
def nameSegments : Nat → Parse (List String)
  | 0 => throw outOfFuel
  | n + 1 => do
    if !(← peek (Tokens.isPunct "::")) then return []
    drop 2
    let x ← anyIdent
    return x :: (← nameSegments n)

/-- The value after `=`. -/
def settingValue (n : Nat) : Parse Setting := do
  let ts ← rest
  let asExpr : Parse Setting := do
    let e ← expr n true
    if e.kind == "lit" then return .lit (Lit.ofText (e.units.headD ""))
    else return .expr e.kind
  match litAt ts with
  | some (l, _, k) => if ts.length == k then do drop k; return .lit l else asExpr
  | none =>
    if Tokens.isPunct "#" ts && (Tokens.group? .bracket (ts.drop 1)).isSome then
      failHere "unexpected attribute inside of attribute"
    else asExpr

/-- One item of an attribute's list. -/
def nested (n : Nat) : Parse Nested := do
  let ts ← rest
  let boolThenEq := (Tokens.isWord "true" ts || Tokens.isWord "false" ts) &&
    Tokens.isPunct "=" (ts.drop 1)
  match litAt ts with
  | some (_, _, k) =>
    if !boolThenEq then do drop k; return .lit
    else namedItem
  | none =>
    if Tokens.isAnyIdent ts || (Tokens.isPunct "::" ts && Tokens.isAnyIdent (ts.drop 2)) then
      namedItem
    else failHere "expected identifier or literal"
where
  /-- An item that starts with a name. -/
  namedItem : Parse Nested := do
    let _ ← punct? "::"
    let first ← anyIdent
    let more ← nameSegments n
    let name := "::".intercalate (first :: more)
    match ← rest with
    | .group _ body :: _ => do drop 1; return .named name (.list body)
    | ts =>
      if Tokens.isPunct "=" ts then do drop 1; return .named name (← settingValue n)
      else return .named name .word

end Rules

/-- The items of an attribute's list, or the error that stops reading them. -/
def Nested.parseList (ts : List Token) : Except String (List Nested) :=
  let n := fuelFor ts
  Parse.run (commaSeparated (nested n) n) ts

/-- The refusal of a literal of the wrong type. -/
def Lit.refusal (l : Lit) : String :=
  let name := match l with
    | .str _ => "string"
    | .byteStr => "byte string"
    | .cStr => "unknown"
    | .byte => "byte"
    | .char _ => "char"
    | .int => "int"
    | .float => "float"
    | .bool _ => "bool"
    | .verbatim => "verbatim"
  "Unexpected type `" ++ name ++ "`"

/-- The refusal of a list where a value was wanted, once the list reads. -/
def listRefusal (ts : List Token) : String :=
  match Nested.parseList ts with
  | .error e => e
  | .ok _ => "Unexpected meta-item format `list`"

/-- A setting that must be a string. -/
def Setting.string : Setting → Except String String
  | .word => .error "Unexpected meta-item format `word`"
  | .list ts => .error (listRefusal ts)
  | .lit (.str v) => .ok v
  | .lit l => .error l.refusal
  | .expr k => .error ("Unexpected type `" ++ k ++ "`")

/-- A setting that is a flag. -/
def Setting.flag : Setting → Except String Bool
  | .word => .ok true
  | .list ts => .error (listRefusal ts)
  | .lit (.bool b) => .ok b
  | .lit (.str v) =>
    if v == "true" then .ok true else if v == "false" then .ok false
    else .error ("Unknown literal value `" ++ v ++ "`")
  | .lit l => .error l.refusal
  | .expr k => .error ("Unexpected type `" ++ k ++ "`")

/-- The refusal of an unknown name, with the closest of `known` suggested. -/
def unknownName (name : String) (known : List String) : String :=
  "Unknown field: `" ++ name ++ "`" ++
    match Similarity.suggest name known with
    | some s => ". Did you mean `" ++ s ++ "`?"
    | none => ""

/-- The items of the attributes named `attr`, in order; an attribute that cannot be read gives
its error instead. -/
def attributeItems (attr : String) (attrs : List Attr) : List (Except String (List Nested)) :=
  (attrs.filter (·.path == attr)).map fun a =>
    match a.body with
    | .word => .ok []
    | .nameValue => .error ("Name-value arguments are not supported. Use #[" ++ attr ++ "(...)]")
    | .list ts => Nested.parseList ts

/-- Settings being gathered: the errors so far, and the names seen. -/
structure Gathered (α : Type) where
  errors : List String
  seen : List String
  value : α

/-- Takes one item of an attribute: `apply` sets a known name's setting. -/
def Gathered.take {α : Type} (known : List String)
    (apply : String → Setting → α → Except String α) (g : Gathered α) : Nested → Gathered α
  | .lit => { g with errors := g.errors ++ ["Unexpected meta-item format `literal`"] }
  | .named name s =>
    if !known.contains name then { g with errors := g.errors ++ [unknownName name known] }
    else if g.seen.contains name then
      { g with errors := g.errors ++ ["Duplicate field `" ++ name ++ "`"] }
    else
      match apply name s g.value with
      | .ok v => { g with seen := name :: g.seen, value := v }
      | .error e => { g with seen := name :: g.seen, errors := g.errors ++ [e] }

/-- Gathers the settings of the attributes named `attr`. -/
def gather {α : Type} (attr : String) (known : List String)
    (apply : String → Setting → α → Except String α) (attrs : List Attr) (start : α) : Gathered α :=
  (attributeItems attr attrs).foldl (fun g r =>
    match r with
    | .error e => { g with errors := g.errors ++ [e] }
    | .ok items => items.foldl (Gathered.take known apply) g) ⟨[], [], start⟩

/-- The settings of a networked field. -/
structure FieldArgs where
  prop : Option String
  table : Option String
  readonly : Bool
deriving Repr

/-- Sets one setting of a field. -/
def FieldArgs.apply (name : String) (s : Setting) (a : FieldArgs) : Except String FieldArgs :=
  if name == "prop" then do return { a with prop := some (← s.string) }
  else if name == "table" then do return { a with table := some (← s.string) }
  else do return { a with readonly := ← s.flag }

/-- The settings of a field from its attributes. -/
def FieldArgs.gather (attrs : List Attr) : Gathered FieldArgs :=
  NetClass.gather "netprop" ["prop", "table", "readonly"] FieldArgs.apply attrs ⟨none, none, false⟩

/-- A named field with its settings. -/
structure FieldSpec where
  name : String
  ty : Ty
  args : FieldArgs

/-- What the derive works from: the struct's name, visibility and default table, and its
fields. -/
structure ClassSpec where
  name : String
  vis : Units
  table : String
  fields : List FieldSpec

/-- Why the derive cannot go on. -/
inductive Refusal where
  /-- Errors to report, in order. -/
  | errors (messages : List String)
  /-- A shape the derive never expects. -/
  | unreachable
deriving Repr

/-- The refusal of an item's shape, when it is not a struct with named fields. -/
def Body.shapeError : Body → Option String
  | .enum => some "Unsupported shape `enum`. Expected struct with named fields."
  | .union => none
  | .struct .unit => some "Unsupported shape `no fields`. Expected named fields."
  | .struct (.unnamed [_]) => some "Unsupported shape `one unnamed field`. Expected named fields."
  | .struct (.unnamed _) => some "Unsupported shape `unnamed fields`. Expected named fields."
  | .struct (.named _) => none

/-- The spec of an item, or why there is none. -/
def ClassSpec.ofItem (item : Item) : Except Refusal ClassSpec :=
  let g := gather "netclass" ["table"] (fun _ s _ => s.string.map some) item.attrs none
  match item.body with
  | .union => .error .unreachable
  | body =>
    let errors := g.errors ++ body.shapeError.toList ++
      (if g.seen.contains "table" then [] else ["Missing field `table`"])
    if !errors.isEmpty then .error (.errors errors)
    else
      match body, g.value with
      | .struct (.named fields), some table =>
        let read := fields.map fun f => (f, FieldArgs.gather f.attrs)
        let fieldErrors := read.flatMap fun (_, g) => g.errors
        if !fieldErrors.isEmpty then .error (.errors fieldErrors)
        else .ok ⟨item.name, item.vis, table, read.map fun (f, g) => ⟨f.name.getD "", f.ty, g.value⟩⟩
      | _, _ => .error (.errors [])

end EngineSdk.NetClass
