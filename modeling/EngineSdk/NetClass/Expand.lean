import EngineSdk.NetClass.Args
import EngineSdk.Text.Debug

/-!
# The expansion

For a struct wrapping an entity pointer, the derive writes:

* for each networked field (one with a `prop`), a static cell caching its resolved offset,
  named `__STRUCT__FIELD_OFFSET`;
* an `impl` with the struct's default table `TABLE_NAME`, for each networked field the
  constants `FIELD_PROP` and `FIELD_TABLE` (the field's table, else the default), and
  `as_ptr`;
* for each networked field an `impl` with `field_offset`, a getter `field`, a getter
  `try_field` and, unless the field is read-only, a setter `set_field`;
* the `NetClass` implementation, whose `from_ptr` builds the struct from the pointer, every
  other field taking `PhantomData` or its default.

A field's accessor name is its name without one leading underscore; constant names are that
name upper-cased.  The type of a field `PhantomData<T>` is `T`; any other field's type is its
own.  A struct without a `ptr` field gets one error instead.

Every generated name is checked as an identifier when it is made, in the order the output is
written: the statics first, then the constants, then the accessors.  A name that is not an
identifier stops the derive with the reason.
-/

namespace EngineSdk.NetClass

/-- Why a text is not an identifier, when it is not one; a text starting `r#` is a raw
identifier. -/
def identFault (text : String) : Option String :=
  let fault (s : String) : Option String :=
    match s.toList with
    | [] => some "Ident is not allowed to be empty; use Option<Ident>"
    | c :: cs =>
      if (c :: cs).all Char.isDigit then some "Ident cannot be a number; use Literal instead"
      else if Unicode.isIdentStart c && cs.all Unicode.isIdentContinue then none
      else some (Text.debugQuote s ++ " is not a valid Ident")
  if text.startsWith "r#" then
    let body := (text.drop 2).toString
    match fault body with
    | some e => some e
    | none =>
      if ["_", "super", "self", "Self", "crate"].contains body then
        some ("`r#" ++ body ++ "` cannot be a raw identifier")
      else none
  else fault text

/-- An identifier made from text, which must be one. -/
def makeIdent (text : String) : Except String String :=
  match identFault text with
  | some e => .error e
  | none => .ok text

/-- A field's accessor name: its name without one leading underscore. -/
def cleanName (name : String) : String :=
  if name.startsWith "_" then (name.drop 1).toString else name

/-- The type a field's accessors use: `T` for `PhantomData<T>`. -/
def Ty.inner : Ty → Ty
  | .path u last first simple =>
    match first with
    | some t => if last == "PhantomData" then t else .path u last first simple
    | none => .path u last first simple
  | t => t

/-- The type is a path ending in `PhantomData`. -/
def Ty.isPhantom : Ty → Bool
  | .path _ last _ _ => last == "PhantomData"
  | .other _ => false

/-- The name of a networked field's offset cell. -/
def offsetCell (structName field : String) : Except String String :=
  makeIdent ("__" ++ Unicode.toUpper structName ++ "__" ++ Unicode.toUpper (cleanName field) ++ "_OFFSET")

/-- `#[doc = "text"]`. -/
def docAttr (text : String) : Units := ["#", "[doc = " ++ stringLiteral text ++ "]"]

/-- A brace group's unit. -/
def braces (inner : Units) : String := groupUnit .brace inner

/-- A parenthesized group's unit. -/
def parens (inner : Units) : String := groupUnit .paren inner

/-- The units of a path written with `::`. -/
def pathUnits (segments : List String) : Units := "::" :: List.intersperse "::" segments

/-- The networked fields: those with a `prop`, with their settings. -/
def ClassSpec.props (c : ClassSpec) : List (FieldSpec × String) :=
  c.fields.filterMap fun f => f.args.prop.map fun p => (f, p)

/-- The static cell `cell` that caches a networked field's resolved offset. -/
def staticItem (cell : String) : Units :=
  ["static", cell, ":"] ++ pathUnits ["std", "sync", "OnceLock"] ++ ["<", "i32", ">", "="] ++
    pathUnits ["std", "sync", "OnceLock", "new"] ++ ["()", ";"]

/-- The static offset cell of a networked field. -/
def offsetStatic (c : ClassSpec) (f : FieldSpec) : Except String Units := do
  let s ← offsetCell c.name f.name
  return staticItem s

/-- The constants of the networked field `field`: `propConst` names its prop, `tableConst` its
table. -/
def constItems (field prop propConst tableConst table : String) : Units :=
  docAttr ("Networked prop name for `" ++ field ++ "`") ++
    ["pub", "const", propConst, ":", "&", "'static", "str", "=", stringLiteral prop, ";"] ++
    docAttr ("RecvTable holding `" ++ prop ++ "`") ++
    ["pub", "const", tableConst, ":", "&", "'static", "str", "=", stringLiteral table, ";"]

/-- The constants of a networked field. -/
def propConstants (c : ClassSpec) (f : FieldSpec) (prop : String) : Except String Units := do
  let up := Unicode.toUpper (cleanName f.name)
  let propConst ← makeIdent (up ++ "_PROP")
  let tableConst ← makeIdent (up ++ "_TABLE")
  return constItems (cleanName f.name) prop propConst tableConst (f.args.table.getD c.table)

/-- `self . ptr . byte_add (offset as usize) as * q T`. -/
def fieldPointer (q : String) (ty : Units) : Units :=
  ["self", ".", "ptr", ".", "byte_add", parens ["offset", "as", "usize"], "as", "*", q] ++ ty

/-- The names a networked field's accessors are written with. -/
structure AccessorNames where
  /-- The static offset cell. -/
  cell : String
  /-- The constant holding the prop. -/
  propConst : String
  /-- The constant holding the table. -/
  tableConst : String
  /-- The function resolving the offset. -/
  offset : String
  getter : String
  tryGetter : String
  /-- The setter, unless the field is read-only. -/
  setter : Option String

/-- The accessors of the networked field `field` of the struct `structName`, with the prop
`prop`, the names `n` and the value type `ty`. -/
def accessorImpl (structName field prop : String) (n : AccessorNames) (ty : Units) : Units :=
  let resultTy := pathUnits ["std", "result", "Result"] ++ ["<", "i32", ","] ++
    pathUnits ["tf2rust_core", "recvprop", "RecvPropError"] ++ [">"]
  let offsetFn := docAttr ("Resolved byte offset of `" ++ prop ++ "`") ++
    ["pub", "fn", n.offset, "()", "->"] ++ resultTy ++
    [braces (pathUnits ["tf2rust_core", "recvprop", "field", "resolve_slot"] ++
      [parens (["&", n.cell, ",", "Self", "::", n.tableConst, ",", "Self", "::", n.propConst, ","])])]
  let panicArm := ["Err", parens ["e"], "=>", "panic", "!",
    parens ["\"\x7b\x7d: \x7b\x7d\"", ",", "stringify", "!", parens [field], ",", "e"], ","]
  let getterFn := docAttr ("Get `" ++ prop ++ "`\n\n# Panics\nPanics if the prop offset cannot be resolved.") ++
    ["#", "[inline]", "pub", "fn", n.getter, parens ["&", "self"], "->"] ++ ty ++
    [braces (["let", "offset", "=", "match", "Self", "::", n.offset, "()",
      braces (["Ok", parens ["offset"], "=>", "offset", ","] ++ panicArm), ";", "unsafe",
      braces (["let", "ptr", "="] ++ fieldPointer "const" ty ++ [";", "ptr", ".", "read_unaligned", "()"])])]
  let tryFn := docAttr ("Get `" ++ prop ++ "`, or None if unresolved or null") ++
    ["#", "[inline]", "pub", "fn", n.tryGetter, parens ["&", "self"], "->", "Option", "<"] ++ ty ++
    [">", braces (["if", "self", ".", "ptr", ".", "is_null", "()", braces ["return", "None", ";"],
      "let", "offset", "=", "Self", "::", n.offset, "()", ".", "ok", "()", "?", ";", "unsafe",
      braces (["let", "ptr", "="] ++ fieldPointer "const" ty ++
        [";", "Some", parens ["ptr", ".", "read_unaligned", "()"]])])]
  let setterFn := match n.setter with
    | none => []
    | some setter =>
      docAttr ("Set `" ++ prop ++ "`") ++
      ["#", "[inline]", "pub", "fn", setter, parens (["&", "mut", "self", ",", "value", ":"] ++ ty),
        braces (["if", "self", ".", "ptr", ".", "is_null", "()", braces ["return", ";"],
          "if", "let", "Ok", parens ["offset"], "=", "Self", "::", n.offset, "()",
          braces ["unsafe", braces (["let", "ptr", "="] ++ fieldPointer "mut" ty ++
            [";", "ptr", ".", "write_unaligned", parens ["value"], ";"])]])]
  ["impl", structName, braces (offsetFn ++ getterFn ++ tryFn ++ setterFn)]

/-- The accessors of a networked field. -/
def accessors (c : ClassSpec) (f : FieldSpec) (prop : String) : Except String Units := do
  let cell ← offsetCell c.name f.name
  let name := cleanName f.name
  let up := Unicode.toUpper name
  let propConst ← makeIdent (up ++ "_PROP")
  let tableConst ← makeIdent (up ++ "_TABLE")
  let getter ← makeIdent name
  let tryGetter ← makeIdent ("try_" ++ name)
  let setter ← makeIdent ("set_" ++ name)
  let offset ← makeIdent (name ++ "_offset")
  return accessorImpl c.name f.name prop
    ⟨cell, propConst, tableConst, offset, getter, tryGetter,
      if f.args.readonly then none else some setter⟩ f.ty.inner.units

/-- `*mut ::std::ffi::c_void`. -/
def voidPtr : Units := ["*", "mut"] ++ pathUnits ["std", "ffi", "c_void"]

/-- The struct's own `impl`: its default table `table` with visibility `vis`, the constants
`constants`, and `as_ptr`. -/
def mainImpl (structName : String) (vis : Units) (table : String) (constants : Units) : Units :=
  ["impl", structName, braces (["#", "[doc = r\" Default RecvTable of this wrapper\"]"] ++
    vis ++ ["const", "TABLE_NAME", ":", "&", "'static", "str", "=", stringLiteral table, ";"] ++
    constants ++ ["#", "[doc = r\" Get the raw pointer\"]"] ++ vis ++
    ["fn", "as_ptr", parens ["&", "self"], "->"] ++ voidPtr ++ [braces ["self", ".", "ptr"]])]

/-- The `NetClass` implementation of the struct `structName`, whose `from_ptr` sets each field
of `inits` to `PhantomData` when it is marked so, else to its default. -/
def netClassImplWith (structName : String) (inits : List (String × Bool)) : Units :=
  let initUnits := inits.map fun (name, phantom) =>
    if phantom then [name, ":"] ++ pathUnits ["std", "marker", "PhantomData"]
    else [name, ":"] ++ pathUnits ["std", "default", "Default", "default"] ++ ["()"]
  let body := ["ptr", ","] ++ (List.intersperse [","] initUnits).flatten
  ["impl"] ++ pathUnits ["tf2rust_core", "recvprop", "NetClass"] ++ ["for", structName,
    braces (["fn", "ptr", parens ["&", "self"], "->"] ++ voidPtr ++ [braces ["self", ".", "ptr"],
      "fn", "table_name", parens ["&", "self"], "->", "&", "'static", "str",
      braces ["Self", "::", "TABLE_NAME"],
      "fn", "is_valid", parens ["&", "self"], "->", "bool",
      braces ["!", "self", ".", "ptr", ".", "is_null", "()"],
      "unsafe", "fn", "from_ptr", parens (["ptr", ":"] ++ voidPtr), "->", "Option", "<", "Self", ">",
      braces ["if", "ptr", ".", "is_null", "()", braces ["None"], "else",
        braces ["Some", parens ["Self", braces body]]]])]

/-- The `NetClass` implementation: `from_ptr` sets every field but `ptr` to `PhantomData` when
its type is `PhantomData`, else to its default. -/
def netClassImpl (c : ClassSpec) : Units :=
  netClassImplWith c.name ((c.fields.filter (·.name != "ptr")).map fun f => (f.name, f.ty.isPhantom))

/-- The error tokens for a message. -/
def compileError (message : String) : Units :=
  pathUnits ["core", "compile_error"] ++ ["!", braces [stringLiteral message]]

/-- The expansion for a spec, or the reason a generated name is not an identifier. -/
def ClassSpec.expand (c : ClassSpec) : Except String String := do
  if !c.fields.any (·.name == "ptr") then
    return Units.text (compileError "NetClass requires a `ptr: *mut c_void` field")
  let props := c.props
  let statics ← props.mapM fun (f, _) => offsetStatic c f
  let constants ← props.mapM fun (f, p) => propConstants c f p
  let access ← props.mapM fun (f, p) => accessors c f p
  return Units.text (statics.flatten ++ mainImpl c.name c.vis c.table constants.flatten ++
    access.flatten ++ netClassImpl c)

/-- Why a derive gives no expansion. -/
inductive DeriveError where
  /-- The source is not an item: the reader's message. -/
  | malformed (message : String)
  /-- The derive stopped: its reason. -/
  | stopped (message : String)
deriving Repr, DecidableEq

/-- The expansion of the derive on the item written in `src`: the generated text, or the error
tokens for the item's faults. -/
def derive (src : String) : Except DeriveError String :=
  match Item.parse src with
  | .error e => .error (.malformed e)
  | .ok item =>
    match ClassSpec.ofItem item with
    | .error .unreachable => .error (.stopped "internal error: entered unreachable code")
    | .error (.errors es) => .ok (Units.text (es.flatMap compileError))
    | .ok spec =>
      match spec.expand with
      | .ok text => .ok text
      | .error e => .error (.stopped e)

end EngineSdk.NetClass
