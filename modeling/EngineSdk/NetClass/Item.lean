import EngineSdk.NetClass.Grammar

/-!
# Items

The item a derive is applied to: its outer attributes, its visibility, `struct`, `enum` or
`union` and its name, generic parameters and a `where` clause (read and checked, then set
aside: the derive does not print them), and its body.

A struct's body is named fields in braces, unnamed fields in parentheses followed by `;`
(a `where` clause may stand before the `;`), or `;` alone.  An enum's body is variants in
braces, each with its own fields and an optional discriminant; a union's is named fields.
A named field is its attributes, visibility, name, `:` and type.

The visibility is kept as printed: nothing, `pub`, `pub (crate)`, `pub (self)`,
`pub (super)`, or `pub (in path)`.  A `pub` followed by parentheses holding anything else is a
plain `pub`, and the parentheses are left for what comes next.
-/

namespace EngineSdk.NetClass

/-- A field: attributes, name (none for unnamed fields) and type. -/
structure Field where
  attrs : List Attr
  name : Option String
  ty : Ty
deriving Repr

/-- The fields of a struct. -/
inductive Fields where
  | named (fields : List Field)
  | unnamed (fields : List Field)
  | unit
deriving Repr

/-- The body of an item. -/
inductive Body where
  | struct (fields : Fields)
  | enum
  | union
deriving Repr

/-- An item a derive is applied to. -/
structure Item where
  attrs : List Attr
  /-- The visibility as printed; empty when private. -/
  vis : Units
  name : String
  body : Body
deriving Repr

section Rules
open Parse

/-- The visibility before an item or field. -/
def visibility (n : Nat) : Parse Units := do
  if !(← peek (Tokens.isWord "pub")) then return []
  drop 1
  match Tokens.group? .paren (← rest) with
  | some body =>
    if (Tokens.isWord "crate" body || Tokens.isWord "self" body || Tokens.isWord "super" body) &&
        body.length == 1 then
      drop 1
      return ["pub", groupUnit .paren [render body]]
    else if Tokens.isWord "in" body then
      let path ← inGroup .paren (do drop 1; modStylePath n)
      return ["pub", groupUnit .paren (["in"] ++ path)]
    else return ["pub"]
  | none => return ["pub"]

/-- Lifetimes joined by `+`, up to a `,` or `>`. -/
def lifetimeBounds : Nat → Parse Unit
  | 0 => throw outOfFuel
  | n + 1 => do
    let ts ← rest
    if Tokens.isPunct "," ts || Tokens.isPunct ">" ts then return
    let _ ← lifetime
    if (← punct? "+") then lifetimeBounds n

/-- Bounds joined by `+`, up to a token that ends them. -/
def boundList (stop : List Token → Bool) : Nat → Parse Unit
  | 0 => throw outOfFuel
  | n + 1 => do
    if stop (← rest) then return
    let _ ← bound n
    if (← punct? "+") then boundList stop n

/-- Generic parameters separated by commas up to the `>`. -/
def genericParams : Nat → Parse Unit
  | 0 => throw outOfFuel
  | n + 1 => do
    if (← peek (Tokens.isPunct ">")) then return
    let _ ← attributes n
    let ts ← rest
    if (Tokens.lifetime? ts).isSome then
      let _ ← lifetime
      if (← punct? ":") then lifetimeBounds n
    else if Tokens.isIdent ts then
      let _ ← ident
      if (← punct? ":") then
        boundList (fun ts => Tokens.isPunct "," ts || Tokens.isPunct ">" ts || Tokens.isPunct "=" ts) n
      if (← punct? "=") then
        let _ ← ty n true
    else if Tokens.isWord "const" ts then
      drop 1
      let _ ← ident
      punct ":"
      let _ ← ty n true
      if (← punct? "=") then
        let _ ← constArg n
    else if Tokens.isWord "_" ts then drop 1
    else expected ["lifetime", "identifier", "`const`"]
    if (← peek (Tokens.isPunct ">")) then return
    punct ","
    genericParams n

/-- Generic parameters `<...>`, when there are any. -/
def generics (n : Nat) : Parse Unit := do
  if !(← peek (Tokens.isPunct "<")) then return
  drop 1
  genericParams n
  punct ">"

/-- The predicates of a `where` clause end before these tokens. -/
def predicatesEnd (ts : List Token) : Bool :=
  ts.isEmpty || (Tokens.group? .brace ts).isSome || Tokens.isPunct "," ts ||
    Tokens.isPunct ";" ts || (Tokens.isPunct ":" ts && !Tokens.isPunct "::" ts) ||
    Tokens.isPunct "=" ts

/-- The predicates of a `where` clause. -/
def predicates : Nat → Parse Unit
  | 0 => throw outOfFuel
  | n + 1 => do
    let ts ← rest
    if predicatesEnd ts then return
    if (Tokens.lifetime? ts).isSome && Tokens.isPunct ":" (ts.drop 2) then
      let _ ← lifetime
      punct ":"
      boundList (fun ts => predicatesEnd ts || Tokens.isPunct ":" ts) n
    else
      if Tokens.isWord "for" ts then
        let _ ← boundLifetimes n
      let _ ← ty n true
      punct ":"
      boundList predicatesEnd n
    if (← punct? ",") then predicates n

/-- A `where` clause. -/
def whereClause (n : Nat) : Parse Unit := do
  word "where"
  predicates n

/-- A named field. -/
def namedField (n : Nat) : Parse Field := do
  let attrs ← attributes n
  let _ ← visibility n
  let underscore ← peek (Tokens.isWord "_")
  let name ← if underscore then anyIdent else ident
  punct ":"
  let ts ← rest
  if underscore && (Tokens.isWord "struct" ts ||
      (Tokens.isWord "union" ts && (Tokens.group? .brace (ts.drop 1)).isSome)) then
    drop 1
    let _ ← sourceGroup
    return ⟨attrs, some name, .other []⟩
  let t ← ty n true
  return ⟨attrs, some name, t⟩

/-- An unnamed field. -/
def unnamedField (n : Nat) : Parse Field := do
  let attrs ← attributes n
  let _ ← visibility n
  let t ← ty n true
  return ⟨attrs, none, t⟩

/-- Items read by `p` separated by commas to the end of the group, a last comma allowed. -/
def commaSeparated {α : Type} (p : Parse α) : Nat → Parse (List α)
  | 0 => throw outOfFuel
  | n + 1 => do
    if (← isEmpty) then return []
    let a ← p
    if (← isEmpty) then return [a]
    punct ","
    return a :: (← commaSeparated p n)

/-- Named fields in braces. -/
def namedFields (n : Nat) : Parse (List Field) :=
  inGroup .brace (commaSeparated (namedField n) n)

/-- Unnamed fields in parentheses. -/
def unnamedFields (n : Nat) : Parse (List Field) :=
  inGroup .paren (commaSeparated (unnamedField n) n)

/-- A variant of an enum. -/
def variant (n : Nat) : Parse Unit := do
  let _ ← attributes n
  let _ ← visibility n
  let _ ← ident
  let ts ← rest
  if (Tokens.group? .brace ts).isSome then
    let _ ← namedFields n
  else if (Tokens.group? .paren ts).isSome then
    let _ ← unnamedFields n
  if (← punct? "=") then
    let _ ← expr n true

/-- The body of a struct, after its generics. -/
def structBody (n : Nat) : Parse Fields := do
  let hasWhere ← peek (Tokens.isWord "where")
  if hasWhere then whereClause n
  let ts ← rest
  let names := (if hasWhere then [] else ["`where`"])
  if !hasWhere && (Tokens.group? .paren ts).isSome then
    let fields ← unnamedFields n
    if (← peek (Tokens.isWord "where")) then
      whereClause n
      if (← punct? ";") then return .unnamed fields
      expected ["`;`"]
    if (← punct? ";") then return .unnamed fields
    expected ["`where`", "`;`"]
  else if (Tokens.group? .brace ts).isSome then
    return .named (← namedFields n)
  else if Tokens.isPunct ";" ts then
    drop 1
    return .unit
  else expected (names ++ (if hasWhere then [] else ["parentheses"]) ++ ["curly braces", "`;`"])

/-- An item. -/
def item (n : Nat) : Parse Item := do
  let attrs ← attributes n
  let vis ← visibility n
  let ts ← rest
  if Tokens.isWord "struct" ts then
    drop 1
    let name ← ident
    generics n
    let fields ← structBody n
    return ⟨attrs, vis, name, .struct fields⟩
  else if Tokens.isWord "enum" ts then
    drop 1
    let name ← ident
    generics n
    if (← peek (Tokens.isWord "where")) then whereClause n
    let _ ← inGroup .brace (commaSeparated (variant n) n)
    return ⟨attrs, vis, name, .enum⟩
  else if Tokens.isWord "union" ts then
    drop 1
    let name ← ident
    generics n
    if (← peek (Tokens.isWord "where")) then whereClause n
    let _ ← namedFields n
    return ⟨attrs, vis, name, .union⟩
  else expected ["`struct`", "`enum`", "`union`"]

end Rules

/-- The item written in `src`, or the error that stops reading it. -/
def Item.parse (src : String) : Except String Item :=
  match lex src with
  | none => .error "cannot parse string into token stream"
  | some ts => Parse.run (item (fuelFor ts)) ts

end EngineSdk.NetClass
