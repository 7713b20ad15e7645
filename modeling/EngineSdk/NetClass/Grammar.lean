import EngineSdk.NetClass.Reader

/-!
# Types, paths, expressions and attributes

The grammar of the parts of an item that the derive reads: types (paths with generic
arguments, tuples, arrays and slices, pointers and references, function pointers, trait
objects, `impl` bounds, the never type, `_`), paths (`a::b::<T>`, qualified `<T as Tr>::X`),
bounds (`'a`, `?Sized`, `for<'a> Fn(&'a T) -> U`), expressions (literals, paths, macros,
operators by precedence, calls, fields, indexing, blocks, ranges, casts and the rest), and
outer attributes `#[path]`, `#[path(...)]`, `#[path = value]`.

A type is kept as its printed form, and for a path type also its last segment's name and the
first of its angle-bracketed arguments when that argument is a type; that is what the derive
looks at.  An expression is kept as its kind, as an error about an unexpected expression names
it (`lit`, `path`, `unary`, `binary`, `method_call`, ...), and its printed form.

Every function takes a fuel argument bounding the depth of its recursion; readers start it
from the size of the input, which every step of the depth consumes a token of, so it never
runs out on a real input.
-/

namespace EngineSdk.NetClass

/-- A type as the derive sees it. -/
inductive Ty where
  /-- A path type: printed form, last segment's name, first angle-bracketed argument when a
  type, and whether the path is one plain segment with no parenthesized arguments. -/
  | path (units : Units) (last : String) (firstArg : Option Ty) (simple : Bool)
  /-- Any other type, by its printed form. -/
  | other (units : Units)
deriving Repr

/-- The printed form of a type. -/
def Ty.units : Ty → Units
  | .path u _ _ _ => u
  | .other u => u

/-- An expression: its kind and printed form; a binary expression keeps its operator's
precedence. -/
structure Expr where
  kind : String
  units : Units
  binaryPrecedence : Nat := 0
deriving Repr

/-- The arguments of the last segment of a path. -/
inductive ArgsShape where
  | none
  | angle
  | paren
deriving DecidableEq, Repr

/-- A path as read. -/
structure PathRead where
  units : Units
  leadingColon : Bool
  segments : Nat
  last : String
  lastArgs : ArgsShape
  firstArg : Option Ty
  /-- No segment has arguments. -/
  modStyle : Bool
  /-- The path is qualified, `<T as Tr>::X`. -/
  qualified : Bool := false

/-- A segment as read: name, printed form, arguments' shape and first type argument. -/
structure SegmentRead where
  name : String
  units : Units
  args : ArgsShape
  firstArg : Option Ty

/-- What an attribute holds after its path. -/
inductive MetaBody where
  /-- Nothing: `#[path]`. -/
  | word
  /-- A group of tokens: `#[path(...)]`. -/
  | list (tokens : List Token)
  /-- A value: `#[path = value]`. -/
  | nameValue
deriving Repr

/-- An outer attribute: its path as printed, and its body. -/
structure Attr where
  path : String
  body : MetaBody
deriving Repr

/-! Operator precedences, weakest first. -/
namespace Precedence
def jump : Nat := 0
def assign : Nat := 1
def range : Nat := 2
def or : Nat := 3
def and : Nat := 4
def compare : Nat := 6
def bitOr : Nat := 7
def bitXor : Nat := 8
def bitAnd : Nat := 9
def shift : Nat := 10
def sum : Nat := 11
def product : Nat := 12
def cast : Nat := 13
end Precedence

/-- The binary operator first in `ts`, with its precedence; compound assignments first. -/
def binaryOperator? (ts : List Token) : Option (String × Nat) :=
  let table : List (String × Nat) :=
    [("+=", Precedence.assign), ("-=", Precedence.assign), ("*=", Precedence.assign),
      ("/=", Precedence.assign), ("%=", Precedence.assign), ("^=", Precedence.assign),
      ("&=", Precedence.assign), ("|=", Precedence.assign), ("<<=", Precedence.assign),
      (">>=", Precedence.assign), ("&&", Precedence.and), ("||", Precedence.or),
      ("<<", Precedence.shift), (">>", Precedence.shift), ("==", Precedence.compare),
      ("<=", Precedence.compare), ("!=", Precedence.compare), (">=", Precedence.compare),
      ("+", Precedence.sum), ("-", Precedence.sum), ("*", Precedence.product),
      ("/", Precedence.product), ("%", Precedence.product), ("^", Precedence.bitXor),
      ("&", Precedence.bitAnd), ("|", Precedence.bitOr), ("<", Precedence.compare),
      (">", Precedence.compare)]
  table.find? fun (op, _) => Tokens.isPunct op ts

/-- The precedence of what follows an operand. -/
def nextPrecedence (ts : List Token) : Nat :=
  match binaryOperator? ts with
  | some (_, p) => p
  | none =>
    if Tokens.isPunct "=" ts && !Tokens.isPunct "=>" ts then Precedence.assign
    else if Tokens.isPunct ".." ts then Precedence.range
    else if Tokens.isWord "as" ts then Precedence.cast
    else Precedence.jump

/-- A half-open range has no end before these tokens. -/
def rangeEndsBefore (allowStruct : Bool) (ts : List Token) : Bool :=
  ts.isEmpty || Tokens.isPunct "," ts || Tokens.isPunct ";" ts ||
    (Tokens.isPunct "." ts && !Tokens.isPunct ".." ts) || Tokens.isPunct "?" ts ||
    Tokens.isPunct "=>" ts || (!allowStruct && (Tokens.group? .brace ts).isSome) ||
    Tokens.isPunct "=" ts || Tokens.isPunct "+" ts || Tokens.isPunct "/" ts ||
    Tokens.isPunct "%" ts || Tokens.isPunct "^" ts || Tokens.isPunct ">" ts ||
    Tokens.isPunct "<=" ts || Tokens.isPunct "!=" ts || Tokens.isPunct "-=" ts ||
    Tokens.isPunct "*=" ts || Tokens.isPunct "&=" ts || Tokens.isPunct "|=" ts ||
    Tokens.isPunct "<<=" ts || Tokens.isWord "as" ts

/-- The kinds of token a type may start with, as an error lists them. -/
def typeStarts : List String :=
  ["`for`", "parentheses", "`fn`", "`unsafe`", "`extern`", "identifier", "`::`", "`<`", "`dyn`",
    "square brackets", "`*`", "`&`", "`!`", "`impl`", "`_`", "lifetime"]

/-- `ts` starts a path: an identifier, `::`, `<`, or a path keyword. -/
def startsPath (ts : List Token) : Bool :=
  Tokens.isIdent ts || Tokens.isPunct "::" ts || Tokens.isPunct "<" ts ||
    ["self", "Self", "super", "crate"].any (Tokens.isWord · ts)

/-- `ts` starts a bound after a `+`. -/
def startsBound (ts : List Token) : Bool :=
  Tokens.isAnyIdent ts || Tokens.isPunct "::" ts || Tokens.isPunct "?" ts ||
    (Tokens.lifetime? ts).isSome || (Tokens.group? .paren ts).isSome || Tokens.isPunct "~" ts

/-- What follows a cast that may not, as the error names it: a field access, a method call,
`.await`, `?`, indexing or a call. -/
def castFollower? (ts : List Token) : Option String :=
  if Tokens.isPunct "." ts && !Tokens.isPunct ".." ts then
    let after := ts.drop 1
    if Tokens.isWord "await" after then some "`.await`"
    else if Tokens.isIdent after && ((Tokens.group? .paren (after.drop 1)).isSome ||
        Tokens.isPunct "::" (after.drop 1)) then some "a method call"
    else some "a field access"
  else if Tokens.isPunct "?" ts then some "`?`"
  else if (Tokens.group? .bracket ts).isSome then some "indexing"
  else if (Tokens.group? .paren ts).isSome then some "a function call"
  else none

/-- After a keyword, `ts` opens generic parameters rather than a qualified path: `<` then `>`,
`#`, `const`, or a lifetime or identifier followed by `>`, `,`, `:` or `=`. -/
def opensGenerics (ts : List Token) : Bool :=
  Tokens.isPunct "<" ts &&
    (let t2 := ts.drop 1
     let t3 := Tokens.tail t2
     Tokens.isPunct ">" t2 || Tokens.isPunct "#" t2 || Tokens.isWord "const" t2 ||
       (((Tokens.lifetime? t2).isSome || Tokens.isIdent t2) &&
         (Tokens.isPunct ">" t3 || Tokens.isPunct "," t3 ||
           (Tokens.isPunct ":" t3 && !Tokens.isPunct "::" t3) || Tokens.isPunct "=" t3)))

/-- The characters of the punctuation first in `ts`: a run of joint characters and the one
after the last of them, a quote mark never among them. -/
def punctRun : List Token → List Char
  | .punct c joint :: rest =>
    if c = '\'' then []
    else if joint then c :: punctRun rest
    else [c]
  | _ => []

/-- The message of a reader that ran out of fuel. -/
def outOfFuel : String := "recursion limit reached"

section Rules
open Parse

mutual

/-- A type; `allowPlus` lets a bare trait object take `+` bounds. -/
def ty : Nat → Bool → Parse Ty
  | 0, _ => throw outOfFuel
  | n + 1, allowPlus => do
    let ts ← rest
    if Tokens.isWord "for" ts then
      let lts ← boundLifetimes n
      let ts ← rest
      if Tokens.isWord "fn" ts || Tokens.isWord "unsafe" ts || Tokens.isWord "extern" ts then
        return .other (lts ++ (← bareFn n))
      else if startsPath ts && !Tokens.isWord "dyn" ts then
        let p ← typePath n
        let more ← if allowPlus then plusBounds n else pure []
        return .other (lts ++ p.units ++ more)
      else expected ["identifier", "`fn`", "`unsafe`", "`extern`", "`super`", "`self`", "`Self`",
        "`crate`"]
    else if (Tokens.group? .paren ts).isSome then parenType n allowPlus
    else if Tokens.isWord "fn" ts || Tokens.isWord "unsafe" ts || Tokens.isWord "extern" ts then
      return .other (← bareFn n)
    else if startsPath ts then
      let p ← typePath n
      if p.qualified then return .path p.units p.last p.firstArg false
      let ts ← rest
      if Tokens.isPunct "!" ts && !Tokens.isPunct "!=" ts && p.modStyle then
        drop 1
        match ← sourceGroup with
        | some g => return .other (p.units ++ ["!", g])
        | none => failHere "expected delimiter"
      else if allowPlus && Tokens.isPunct "+" ts then
        return .other (p.units ++ (← plusBounds n))
      else
        let simple := !p.leadingColon && p.segments == 1 && p.lastArgs != .paren
        return .path p.units p.last p.firstArg simple
    else if Tokens.isWord "dyn" ts then
      drop 1
      let star ← punct? "*"
      let (u, anyTrait) ← bounds n allowPlus
      if !anyTrait then throw "at least one trait is required for an object type"
      return .other (["dyn"] ++ (if star then ["*"] else []) ++ u)
    else if (Tokens.group? .bracket ts).isSome then
      inGroup .bracket (do
        let elem ← ty n true
        if (← peek (Tokens.isPunct ";")) then
          drop 1
          let len ← expr n true
          return .other [groupUnit .bracket (elem.units ++ [";"] ++ len.units)]
        else return .other [groupUnit .bracket elem.units])
    else if Tokens.isPunct "*" ts then
      drop 1
      let ts ← rest
      let q ← if Tokens.isWord "const" ts then pure "const"
        else if Tokens.isWord "mut" ts then pure "mut"
        else expected ["`const`", "`mut`"]
      drop 1
      let elem ← ty n false
      return .other (["*", q] ++ elem.units)
    else if Tokens.isPunct "&" ts then
      drop 1
      let lt ← match Tokens.lifetime? (← rest) with
        | some l => do drop 2; pure [l]
        | none => pure []
      let m ← if (← peek (Tokens.isWord "mut")) then do drop 1; pure ["mut"] else pure []
      let elem ← ty n false
      return .other (["&"] ++ lt ++ m ++ elem.units)
    else if Tokens.isPunct "!" ts then
      drop 1
      return .other ["!"]
    else if Tokens.isWord "impl" ts then
      drop 1
      let (u, anyTrait) ← bounds n allowPlus
      if !anyTrait then throw "at least one trait must be specified"
      return .other (["impl"] ++ u)
    else if Tokens.isWord "_" ts then
      drop 1
      return .other ["_"]
    else if (Tokens.lifetime? ts).isSome then
      let (u, anyTrait) ← bounds n true
      if !anyTrait then throw "at least one trait is required for an object type"
      return .other u
    else expected typeStarts

/-- A type in parentheses: the unit tuple, a tuple, a parenthesized type or trait object. -/
def parenType : Nat → Bool → Parse Ty
  | 0, _ => throw outOfFuel
  | n + 1, allowPlus => do
    let inner ← inGroup .paren (do
      let ts ← rest
      if ts.isEmpty then return (0, [])
      else if (Tokens.lifetime? ts).isSome then
        let (u, anyTrait) ← bounds n true
        if !anyTrait then throw "at least one trait is required for an object type"
        return (1, u)
      else if Tokens.isPunct "?" ts then
        return (2, ← traitBound n)
      else
        let first ← ty n true
        if (← peek (Tokens.isPunct ",")) then
          drop 1
          return (1, first.units ++ [","] ++ (← typeList n))
        else
          match first with
          | .path u _ _ _ => return (3, u)
          | .other u => return (1, u))
    match inner with
    | (0, _) => return .other ["()"]
    | (2, u) =>
      let more ← plusRest n
      return .other ([groupUnit .paren u] ++ more)
    | (3, u) =>
      if allowPlus && (← peek (Tokens.isPunct "+")) then
        return .other ([groupUnit .paren u] ++ (← plusBounds n))
      else return .other [groupUnit .paren u]
    | (_, u) => return .other [groupUnit .paren u]

/-- Types separated by commas to the end of the group, after a first type and comma. -/
def typeList : Nat → Parse Units
  | 0 => throw outOfFuel
  | n + 1 => do
    if (← isEmpty) then return []
    let t ← ty n true
    if (← isEmpty) then return t.units
    punct ","
    return t.units ++ [","] ++ (← typeList n)

/-- `+` and bounds after a first bound, for as long as bounds follow. -/
def plusBounds : Nat → Parse Units
  | 0 => throw outOfFuel
  | n + 1 => do
    if !(← peek (Tokens.isPunct "+")) then return []
    drop 1
    if !(← peek startsBound) then return ["+"]
    let (u, _) ← bound n
    return ["+"] ++ u ++ (← plusBounds n)

/-- `+` and bounds, each `+` followed by a bound. -/
def plusRest : Nat → Parse Units
  | 0 => throw outOfFuel
  | n + 1 => do
    if !(← peek (Tokens.isPunct "+")) then return []
    drop 1
    let (u, _) ← bound n
    return ["+"] ++ u ++ (← plusRest n)

/-- Bounds separated by `+`; whether one of them is a trait. -/
def bounds : Nat → Bool → Parse (Units × Bool)
  | 0, _ => throw outOfFuel
  | n + 1, allowPlus => do
    let (u, isTrait) ← bound n
    if !(allowPlus && (← peek (Tokens.isPunct "+"))) then return (u, isTrait)
    drop 1
    if !(← peek startsBound) then return (u ++ ["+"], isTrait)
    let (more, anyTrait) ← bounds n allowPlus
    return (u ++ ["+"] ++ more, isTrait || anyTrait)

/-- One bound: a lifetime, or a trait bound, perhaps in parentheses; whether it is a trait. -/
def bound : Nat → Parse (Units × Bool)
  | 0 => throw outOfFuel
  | n + 1 => do
    match Tokens.lifetime? (← rest) with
    | some l => do drop 2; return ([l], false)
    | none =>
      if (← peek fun ts => (Tokens.group? .paren ts).isSome) then
        let u ← inGroup .paren (traitBound n)
        return ([groupUnit .paren u], true)
      else return (← traitBound n, true)

/-- A trait bound: lifetimes, `?`, a path and its parenthesized arguments. -/
def traitBound : Nat → Parse Units
  | 0 => throw outOfFuel
  | n + 1 => do
    let lts ← if (← peek (Tokens.isWord "for")) then boundLifetimes n else pure []
    let konst ← if (← peek (Tokens.isWord "const")) then do drop 1; pure ["const"] else pure []
    let maybe ← punct? "?"
    let lts2 ← if lts.isEmpty && maybe && (← peek (Tokens.isWord "for")) then boundLifetimes n
      else pure []
    let p ← pathFrom n false
    let ts ← rest
    let fnArgs ← if p.lastArgs == .none && ((Tokens.group? .paren ts).isSome ||
        (Tokens.isPunct "::" ts && (Tokens.group? .paren (ts.drop 2)).isSome)) then do
        let _ ← punct? "::"
        parenArgs n
      else pure []
    return lts ++ konst ++ (if maybe then ["?"] else []) ++ lts2 ++ p.units ++ fnArgs

/-- `for<'a, ...>`. -/
def boundLifetimes : Nat → Parse Units
  | 0 => throw outOfFuel
  | n + 1 => do
    word "for"
    punct "<"
    let ls ← lifetimeList n
    punct ">"
    return ["for", "<"] ++ ls ++ [">"]

/-- Lifetimes separated by commas up to a `>`. -/
def lifetimeList : Nat → Parse Units
  | 0 => throw outOfFuel
  | n + 1 => do
    if (← peek (Tokens.isPunct ">")) then return []
    let _ ← attributes n
    let l ← lifetime
    if (← peek (Tokens.isPunct ">")) then return [l]
    punct ","
    return [l, ","] ++ (← lifetimeList n)

/-- A function pointer type after its lifetimes. -/
def bareFn : Nat → Parse Units
  | 0 => throw outOfFuel
  | n + 1 => do
    let uns ← if (← peek (Tokens.isWord "unsafe")) then do drop 1; pure ["unsafe"] else pure []
    let abi ← if (← peek (Tokens.isWord "extern")) then do
        drop 1
        match ← rest with
        | .literal r :: _ =>
          if r.startsWith "\"" || r.startsWith "r" then do drop 1; pure ["extern", r]
          else pure ["extern"]
        | _ => pure ["extern"]
      else pure []
    word "fn"
    let args ← inGroup .paren (fnArgs n true)
    let ret ← returnType n
    return uns ++ abi ++ ["fn", groupUnit .paren args] ++ ret

/-- The arguments of a function pointer type, to the end of the group. -/
def fnArgs : Nat → Bool → Parse Units
  | 0, _ => throw outOfFuel
  | n + 1, first => do
    if (← isEmpty) then return []
    let _ ← attributes n
    let ts ← rest
    if Tokens.isPunct "..." ts then
      drop 3
      return ["..."]
    let name ← if (Tokens.isIdent ts || Tokens.isWord "_" ts || Tokens.isWord "self" ts) &&
        Tokens.isPunct ":" (Tokens.tail ts) && !Tokens.isPunct "::" (Tokens.tail ts) then do
        let x ← anyIdent
        punct ":"
        pure [x, ":"]
      else pure []
    let _ := first
    let t ← ty n true
    if (← isEmpty) then return name ++ t.units
    punct ","
    return name ++ t.units ++ [","] ++ (← fnArgs n false)

/-- `-> Type`, or nothing. -/
def returnType : Nat → Parse Units
  | 0 => throw outOfFuel
  | n + 1 => do
    if (← punct? "->") then
      let t ← ty n false
      return ["->"] ++ t.units
    else return []

/-- Parenthesized arguments `(A, B) -> C` of a path segment. -/
def parenArgs : Nat → Parse Units
  | 0 => throw outOfFuel
  | n + 1 => do
    let inner ← inGroup .paren (typesToEnd n)
    let ret ← returnType n
    return [groupUnit .paren inner] ++ ret

/-- Types separated by commas to the end of the group, a last comma allowed. -/
def typesToEnd : Nat → Parse Units
  | 0 => throw outOfFuel
  | n + 1 => do
    if (← isEmpty) then return []
    let t ← ty n true
    if (← isEmpty) then return t.units
    punct ","
    return t.units ++ [","] ++ (← typesToEnd n)

/-- A path in a type.  Parenthesized arguments `Fn(A) -> B` are read only in a bound: a type
path ends before a parenthesis. -/
def typePath : Nat → Parse PathRead
  | 0 => throw outOfFuel
  | n + 1 => qualifiedPath n false

/-- A path, perhaps qualified. -/
def qualifiedPath : Nat → Bool → Parse PathRead
  | 0, _ => throw outOfFuel
  | n + 1, exprStyle => do
    if (← peek (Tokens.isPunct "<")) then
      drop 1
      let this ← ty n true
      let asPath ← if (← peek (Tokens.isWord "as")) then do
          drop 1
          let p ← pathFrom n false
          pure (["as"] ++ p.units)
        else pure []
      punct ">"
      punct "::"
      let (u, last) ← segmentsFrom n exprStyle
      return { units := ["<"] ++ this.units ++ asPath ++ [">", "::"] ++ u, leadingColon := false,
               segments := 1, last := last.name, lastArgs := last.args, firstArg := last.firstArg,
               modStyle := false, qualified := true }
    else pathFrom n exprStyle

/-- Segments separated by `::`, at least one; the printed form and the last segment. -/
def segmentsFrom : Nat → Bool → Parse (Units × SegmentRead)
  | 0, _ => throw outOfFuel
  | n + 1, exprStyle => do
    let s ← segment n exprStyle
    if (← peek (Tokens.isPunct "::")) then
      drop 2
      let (u, last) ← segmentsFrom n exprStyle
      return (s.units ++ ["::"] ++ u, last)
    else return (s.units, s)

/-- A path: a leading `::` and segments. -/
def pathFrom : Nat → Bool → Parse PathRead
  | 0, _ => throw outOfFuel
  | n + 1, exprStyle => do
    let leading ← punct? "::"
    let s ← segment n exprStyle
    let start : PathRead :=
      { units := (if leading then ["::"] else []) ++ s.units, leadingColon := leading,
        segments := 1, last := s.name, lastArgs := s.args, firstArg := s.firstArg,
        modStyle := s.args == .none }
    pathRest n exprStyle start

/-- More `::` segments of a path. -/
def pathRest : Nat → Bool → PathRead → Parse PathRead
  | 0, _, _ => throw outOfFuel
  | n + 1, exprStyle, p => do
    let ts ← rest
    if Tokens.isPunct "::" ts && (Tokens.group? .paren (ts.drop 2)).isNone then
      drop 2
      let s ← segment n exprStyle
      let q : PathRead := { p with units := p.units ++ ["::"] ++ s.units, segments := p.segments + 1,
                                   last := s.name, lastArgs := s.args, firstArg := s.firstArg,
                                   modStyle := p.modStyle && s.args == .none }
      pathRest n exprStyle q
    else return p

/-- One segment of a path: a name and its angle-bracketed arguments. -/
def segment : Nat → Bool → Parse SegmentRead
  | 0, _ => throw outOfFuel
  | n + 1, exprStyle => do
    let ts ← rest
    if ["super", "self", "crate", "try"].any (Tokens.isWord · ts) then
      let x ← anyIdent
      return ⟨x, [x], .none, none⟩
    let name ← if Tokens.isWord "Self" ts then anyIdent else ident
    let ts ← rest
    if (!exprStyle && Tokens.isPunct "<" ts && !Tokens.isPunct "<=" ts && !Tokens.isPunct "<<=" ts) ||
        (Tokens.isPunct "::" ts && Tokens.isPunct "<" (ts.drop 2)) then
      let (u, first) ← angleArgs n
      return ⟨name, [name] ++ u, .angle, first⟩
    else return ⟨name, [name], .none, none⟩

/-- Angle-bracketed arguments, `::` allowed before them; the first argument when a type. -/
def angleArgs : Nat → Parse (Units × Option Ty)
  | 0 => throw outOfFuel
  | n + 1 => do
    let colons ← punct? "::"
    punct "<"
    let (u, first) ← genericArgs n true
    punct ">"
    return ((if colons then ["::"] else []) ++ ["<"] ++ u ++ [">"], first)

/-- Generic arguments separated by commas up to a `>`; the first one when a type. -/
def genericArgs : Nat → Bool → Parse (Units × Option Ty)
  | 0, _ => throw outOfFuel
  | n + 1, isFirst => do
    if (← peek (Tokens.isPunct ">")) then return ([], none)
    let (u, t) ← genericArg n
    let first := if isFirst then t else none
    if (← peek (Tokens.isPunct ">")) then return (u, first)
    punct ","
    let (more, _) ← genericArgs n false
    return (u ++ [","] ++ more, first)

/-- One generic argument: a lifetime, a constant, a binding `Name = T`, a constraint
`Name: Bound`, or a type. -/
def genericArg : Nat → Parse (Units × Option Ty)
  | 0 => throw outOfFuel
  | n + 1 => do
    let ts ← rest
    match Tokens.lifetime? ts with
    | some l =>
      if !Tokens.isPunct "+" (ts.drop 2) then do drop 2; return ([l], none)
      else typeArg n
    | none =>
      if Tokens.isLit ts || (Tokens.group? .brace ts).isSome then return (← constArg n, none)
      else typeArg n

/-- A generic argument that starts as a type. -/
def typeArg : Nat → Parse (Units × Option Ty)
  | 0 => throw outOfFuel
  | n + 1 => do
    let t ← ty n true
    match t with
    | .path u _ _ true =>
      if (← punct? "=") then
        let ts ← rest
        if Tokens.isLit ts || (Tokens.group? .brace ts).isSome then
          return (u ++ ["="] ++ (← constArg n), none)
        else
          let v ← ty n true
          return (u ++ ["="] ++ v.units, none)
      else if (← peek (Tokens.isPunct ":")) then
        drop 1
        let b ← constraintBounds n
        return (u ++ [":"] ++ b, none)
      else return (t.units, some t)
    | _ => return (t.units, some t)

/-- The bounds of a constraint, up to a `,` or `>`. -/
def constraintBounds : Nat → Parse Units
  | 0 => throw outOfFuel
  | n + 1 => do
    let ts ← rest
    if Tokens.isPunct "," ts || Tokens.isPunct ">" ts then return []
    let (u, _) ← bound n
    if !(← peek (Tokens.isPunct "+")) then return u
    drop 1
    return u ++ ["+"] ++ (← constraintBounds n)

/-- A constant generic argument: a literal, an identifier or a block. -/
def constArg : Nat → Parse Units
  | 0 => throw outOfFuel
  | _ + 1 => do
    let ts ← rest
    match litAt ts with
    | some (_, text, k) => do drop k; return [text]
    | none =>
      if Tokens.isIdent ts then return [← ident]
      else
        match ← sourceGroup with
        | some g => if (Tokens.group? .brace ts).isSome then return [g] else expected []
        | none => expected []

/-- An expression; `allowStruct` lets a path take a struct body. -/
def expr : Nat → Bool → Parse Expr
  | 0, _ => throw outOfFuel
  | n + 1, allowStruct => do
    let lhs ← unary n allowStruct
    binaryRest n allowStruct Precedence.jump lhs

/-- Operators after an operand, as long as they bind at least as tightly as `base`. -/
def binaryRest : Nat → Bool → Nat → Expr → Parse Expr
  | 0, _, _, _ => throw outOfFuel
  | n + 1, allowStruct, base, lhs => do
    if lhs.kind == "range" then return lhs
    let ts ← rest
    match binaryOperator? ts with
    | some (op, prec) =>
      if prec < base then return lhs
      if prec == Precedence.compare && lhs.kind == "binary" &&
          lhs.binaryPrecedence == Precedence.compare then
        throw "comparison operators cannot be chained"
      drop op.length
      let rhs ← operand n allowStruct prec
      let e : Expr := { kind := "binary", units := lhs.units ++ [op] ++ rhs.units, binaryPrecedence := prec }
      binaryRest n allowStruct base e
    | none =>
      if Precedence.assign ≥ base && Tokens.isPunct "=" ts && !Tokens.isPunct "=>" ts then
        drop 1
        let rhs ← operand n allowStruct Precedence.assign
        binaryRest n allowStruct base { kind := "assign", units := lhs.units ++ ["="] ++ rhs.units }
      else if Precedence.range ≥ base && Tokens.isPunct ".." ts then
        if Tokens.isPunct "..." ts then throw "expected `..=`"
        let op := if Tokens.isPunct "..=" ts then "..=" else ".."
        drop op.length
        let stop ← if op == ".." && rangeEndsBefore allowStruct (← rest) then pure []
          else do pure (← operand n allowStruct Precedence.range).units
        return { kind := "range", units := lhs.units ++ [op] ++ stop }
      else if Precedence.cast ≥ base && Tokens.isWord "as" ts then
        drop 1
        let t ← ty n false
        if let some what := castFollower? (← rest) then
          throw ("casts cannot be followed by " ++ what)
        binaryRest n allowStruct base { kind := "cast", units := lhs.units ++ ["as"] ++ t.units }
      else return lhs

/-- The right operand of an operator of precedence `prec`, with the tighter operators after
it. -/
def operand : Nat → Bool → Nat → Parse Expr
  | 0, _, _ => throw outOfFuel
  | n + 1, allowStruct, prec => do
    let rhs ← unary n allowStruct
    operandRest n allowStruct prec rhs

/-- Tighter operators after a right operand. -/
def operandRest : Nat → Bool → Nat → Expr → Parse Expr
  | 0, _, _, _ => throw outOfFuel
  | n + 1, allowStruct, prec, rhs => do
    let next := nextPrecedence (← rest)
    if next > prec || (next == prec && prec == Precedence.assign) then
      let before := (← rest).length
      let rhs' ← binaryRest n allowStruct next rhs
      if (← rest).length == before then return rhs'
      operandRest n allowStruct prec rhs'
    else return rhs

/-- A prefix expression: a reference, a unary operator, or a postfix expression. -/
def unary : Nat → Bool → Parse Expr
  | 0, _ => throw outOfFuel
  | n + 1, allowStruct => do
    let _ ← attributes n
    let ts ← rest
    if Tokens.isPunct "&" ts then
      drop 1
      let ts ← rest
      let raw := Tokens.isWord "raw" ts &&
        (Tokens.isWord "mut" (ts.drop 1) || Tokens.isWord "const" (ts.drop 1))
      if raw then drop 1
      let m ← if (← peek (Tokens.isWord "mut")) then do drop 1; pure ["mut"]
        else if raw then do word "const"; pure ["const"] else pure []
      let e ← unary n allowStruct
      return { kind := if raw then "unknown" else "reference",
               units := ["&"] ++ (if raw then ["raw"] else []) ++ m ++ e.units }
    else if Tokens.isPunct "*" ts || Tokens.isPunct "!" ts || Tokens.isPunct "-" ts then
      let op := match ts with
        | .punct c _ :: _ => c.toString
        | _ => ""
      drop 1
      let e ← unary n allowStruct
      return { kind := "unary", units := [op] ++ e.units }
    else
      let a ← atom n allowStruct
      trailers n a

/-- Calls, fields, method calls, indexing and `?` after an expression. -/
def trailers : Nat → Expr → Parse Expr
  | 0, _ => throw outOfFuel
  | n + 1, e => do
    let ts ← rest
    if (Tokens.group? .paren ts).isSome then
      let args ← inGroup .paren (exprList n)
      trailers n { kind := "call", units := e.units ++ [groupUnit .paren args] }
    else if Tokens.isPunct "." ts && !Tokens.isPunct ".." ts && e.kind != "range" then
      drop 1
      match ← rest with
      | .literal r :: _ =>
        if Lit.ofRepr r == .float then
          drop 1
          let (parts, trailing) := floatFieldParts r
          let e' ← parts.foldlM (fun (acc : Expr) part => do
            match fieldIndex part with
            | .ok i => pure { kind := "field", units := acc.units ++ [".", toString i] }
            | .error msg => throw msg) e
          if trailing then member n e' else trailers n e'
        else member n e
      | _ => member n e
    else if (Tokens.group? .bracket ts).isSome then
      let i ← inGroup .bracket (expr n true)
      trailers n { kind := "index", units := e.units ++ [groupUnit .bracket i.units] }
    else if Tokens.isPunct "?" ts && e.kind != "range" then
      drop 1
      trailers n { kind := "try", units := e.units ++ ["?"] }
    else return e

/-- What follows the point of a field access: `await`, a field named by an identifier or an
integer, or a method call. -/
def member : Nat → Expr → Parse Expr
  | 0, _ => throw outOfFuel
  | n + 1, e => do
    let ts ← rest
    match ts with
    | .literal r :: _ =>
      if Lit.ofRepr r == .int then
        drop 1
        match fieldIndex r with
        | .ok i => trailers n { kind := "field", units := e.units ++ [".", toString i] }
        | .error msg => throw msg
      else throw "expected identifier or integer"
    | _ =>
      if Tokens.isWord "await" ts then
        drop 1
        trailers n { kind := "await", units := e.units ++ [".", "await"] }
      else if Tokens.isIdent ts then
        let name ← ident
        let ts ← rest
        let turbofish ← if Tokens.isPunct "::" ts then do pure (← angleArgs n).1 else pure []
        if !turbofish.isEmpty || (Tokens.group? .paren (← rest)).isSome then
          let args ← inGroup .paren (exprList n)
          let call : Expr := { kind := "method_call",
                               units := e.units ++ [".", name] ++ turbofish ++ [groupUnit .paren args] }
          trailers n call
        else trailers n { kind := "field", units := e.units ++ [".", name] }
      else failHere "expected identifier or integer"

/-- Expressions separated by commas to the end of the group, a last comma allowed. -/
def exprList : Nat → Parse Units
  | 0 => throw outOfFuel
  | n + 1 => do
    if (← isEmpty) then return []
    let e ← expr n true
    if (← isEmpty) then return e.units
    punct ","
    return e.units ++ [","] ++ (← exprList n)

/-- A block `{ ... }`, read whole. -/
def blockExpr : Nat → String → Units → Parse Expr
  | 0, _, _ => throw outOfFuel
  | _ + 1, kind, before => do
    if (Tokens.group? .brace (← rest)).isNone then failHere "expected curly braces"
    match ← sourceGroup with
    | some g => return { kind := kind, units := before ++ [g] }
    | none => failHere "expected curly braces"

/-- An expression that starts with its own token. -/
def atom : Nat → Bool → Parse Expr
  | 0, _ => throw outOfFuel
  | n + 1, allowStruct => do
    let ts ← rest
    match litAt ts with
    | some (_, text, k) => do drop k; return { kind := "lit", units := [text] }
    | none =>
    if Tokens.isWord "async" ts && ((Tokens.group? .brace (ts.drop 1)).isSome ||
        (Tokens.isWord "move" (ts.drop 1) && (Tokens.group? .brace (ts.drop 2)).isSome)) then
      drop 1
      let mv ← if (← peek (Tokens.isWord "move")) then do drop 1; pure ["move"] else pure []
      blockExpr n "async" (["async"] ++ mv)
    else if Tokens.isWord "try" ts && (Tokens.group? .brace (ts.drop 1)).isSome then
      drop 1
      blockExpr n "try_block" ["try"]
    else if Tokens.isPunct "|" ts || Tokens.isWord "move" ts || Tokens.isWord "static" ts ||
        (Tokens.isWord "for" ts && opensGenerics (ts.drop 1)) ||
        (Tokens.isWord "const" ts && (Tokens.group? .brace (ts.drop 1)).isNone) ||
        (Tokens.isWord "async" ts && (Tokens.isPunct "|" (ts.drop 1) || Tokens.isWord "move" (ts.drop 1))) then
      closure n allowStruct
    else if Tokens.isWord "builtin" ts && Tokens.isPunct "#" (ts.drop 1) then
      drop 2
      let _ ← ident
      let _ ← inGroup .paren (do drop (← rest).length)
      return { kind := "verbatim", units := [render (ts.take (ts.length - (← rest).length))] }
    else if startsPath ts || (Tokens.isWord "try" ts &&
        (Tokens.isPunct "!" (ts.drop 1) || Tokens.isPunct "::" (ts.drop 1))) then
      let p ← qualifiedPath n true
      let ts ← rest
      if !p.qualified && Tokens.isPunct "!" ts && !Tokens.isPunct "!=" ts && p.modStyle then
        drop 1
        match ← sourceGroup with
        | some g => return { kind := "macro", units := p.units ++ ["!", g] }
        | none => failHere "expected delimiter"
      else if allowStruct && (Tokens.group? .brace ts).isSome then
        blockExpr n "struct" p.units
      else return { kind := "path", units := p.units }
    else if (Tokens.group? .paren ts).isSome then
      inGroup .paren (do
        if (← isEmpty) then return { kind := "tuple", units := ["()"] }
        let first ← expr n true
        if (← isEmpty) then return { kind := "paren", units := [groupUnit .paren first.units] }
        punct ","
        let more ← exprList n
        return { kind := "tuple", units := [groupUnit .paren (first.units ++ [","] ++ more)] })
    else if Tokens.isWord "become" ts then
      drop 1
      let _ ← expr n true
      return { kind := "verbatim", units := [render (ts.take (ts.length - (← rest).length))] }
    else if Tokens.isWord "break" ts || Tokens.isWord "return" ts || Tokens.isWord "yield" ts then
      let w ← anyIdent
      let label ← if w == "break" then
          match Tokens.lifetime? (← rest) with
          | some l => do drop 2; pure [l]
          | none => pure []
        else pure []
      let ts ← rest
      if ts.isEmpty || Tokens.isPunct "," ts || Tokens.isPunct ";" ts || Tokens.isPunct "=>" ts then
        return { kind := w, units := [w] ++ label }
      let e ← expr n allowStruct
      return { kind := w, units := [w] ++ label ++ e.units }
    else if Tokens.isWord "continue" ts then
      drop 1
      match Tokens.lifetime? (← rest) with
      | some l => do drop 2; return { kind := "continue", units := ["continue", l] }
      | none => return { kind := "continue", units := ["continue"] }
    else if (Tokens.group? .bracket ts).isSome then
      inGroup .bracket (do
        if (← isEmpty) then return { kind := "array", units := ["[]"] }
        let first ← expr n true
        let ts ← rest
        if ts.isEmpty || Tokens.isPunct "," ts then
          if ts.isEmpty then return { kind := "array", units := [groupUnit .bracket first.units] }
          drop 1
          let more ← exprList n
          return { kind := "array", units := [groupUnit .bracket (first.units ++ [","] ++ more)] }
        else if Tokens.isPunct ";" ts then
          drop 1
          let len ← expr n true
          return { kind := "repeat", units := [groupUnit .bracket (first.units ++ [";"] ++ len.units)] }
        else failHere "expected `,` or `;`")
    else if Tokens.isWord "let" ts then
      drop 1
      let pat ← patternUntil n ["="]
      punct "="
      let e ← expr n allowStruct
      return { kind := "let", units := ["let"] ++ pat ++ ["="] ++ e.units }
    else if Tokens.isWord "if" ts then ifExpr n
    else if Tokens.isWord "while" ts then
      drop 1
      let c ← expr n false
      blockExpr n "while" (["while"] ++ c.units)
    else if Tokens.isWord "for" ts then
      drop 1
      let pat ← patternUntil n ["in"]
      word "in"
      let c ← expr n false
      blockExpr n "for_loop" (["for"] ++ pat ++ ["in"] ++ c.units)
    else if Tokens.isWord "loop" ts then
      drop 1
      blockExpr n "loop" ["loop"]
    else if Tokens.isWord "match" ts then
      drop 1
      let c ← expr n false
      blockExpr n "match" (["match"] ++ c.units)
    else if Tokens.isWord "unsafe" ts then
      drop 1
      blockExpr n "unsafe" ["unsafe"]
    else if Tokens.isWord "const" ts then
      drop 1
      blockExpr n "const" ["const"]
    else if (Tokens.group? .brace ts).isSome then blockExpr n "block" []
    else if Tokens.isPunct ".." ts then
      if Tokens.isPunct "..." ts then throw "expected `..=`"
      let op := if Tokens.isPunct "..=" ts then "..=" else ".."
      drop op.length
      let stop ← if op == ".." && rangeEndsBefore allowStruct (← rest) then pure []
        else do pure (← operand n allowStruct Precedence.range).units
      return { kind := "range", units := [op] ++ stop }
    else if Tokens.isWord "_" ts then
      drop 1
      return { kind := "infer", units := ["_"] }
    else
      match Tokens.lifetime? ts with
      | some l =>
        drop 2
        punct ":"
        let inner ← atom n allowStruct
        return { inner with units := [l, ":"] ++ inner.units }
      | none => failHere "expected an expression"

/-- `if cond { ... } else ...`. -/
def ifExpr : Nat → Parse Expr
  | 0 => throw outOfFuel
  | n + 1 => do
    word "if"
    let c ← expr n false
    let thenPart ← blockExpr n "if" (["if"] ++ c.units)
    if (← peek (Tokens.isWord "else")) then
      drop 1
      if (← peek (Tokens.isWord "if")) then
        let e ← ifExpr n
        return { thenPart with units := thenPart.units ++ ["else"] ++ e.units }
      else
        let e ← blockExpr n "if" []
        return { thenPart with units := thenPart.units ++ ["else"] ++ e.units }
    else return thenPart

/-- A closure: bound lifetimes, `const`, `static`, `async`, `move`, `|args|`, and a body. -/
def closure : Nat → Bool → Parse Expr
  | 0, _ => throw outOfFuel
  | n + 1, allowStruct => do
    let lts ← if (← peek (Tokens.isWord "for")) then boundLifetimes n else pure []
    let lead ← modifiers n ["const", "static", "async", "move"]
    let lead := lts ++ lead
    let params ← if (← punct? "||") then pure ["||"] else do
        punct "|"
        let ps ← closureParams n
        punct "|"
        pure (["|"] ++ ps ++ ["|"])
    if (← punct? "->") then
      let t ← ty n false
      let b ← blockExpr n "closure" (lead ++ params ++ ["->"] ++ t.units)
      return b
    let body ← expr n allowStruct
    return { kind := "closure", units := lead ++ params ++ body.units }

/-- The words before a closure's parameters, each at most once and in the order of `words`. -/
def modifiers : Nat → List String → Parse Units
  | 0, _ => throw outOfFuel
  | _ + 1, [] => return []
  | n + 1, w :: ws => do
    if (← peek (Tokens.isWord w)) then
      drop 1
      return [w] ++ (← modifiers n ws)
    else modifiers n ws

/-- The parameters of a closure up to its closing `|`: patterns, each with perhaps a type after
a colon, separated by commas. -/
def closureParams : Nat → Parse Units
  | 0 => throw outOfFuel
  | n + 1 => do
    if (← peek (Tokens.isPunct "|")) then return []
    let _ ← attributes n
    let pat ← patternUntil n ["|", ",", ":"]
    let typed ← if (← peek fun ts => Tokens.isPunct ":" ts && !Tokens.isPunct "::" ts) then do
        drop 1
        let t ← ty n true
        pure ([":"] ++ t.units)
      else pure []
    if (← peek (Tokens.isPunct "|")) then return pat ++ typed
    punct ","
    return pat ++ typed ++ [","] ++ (← closureParams n)

/-- The tokens of a pattern, up to one of the punctuation marks or words `stops`, as printed: a
lifetime or a run of joint punctuation is one unit, a `::` is never a stop. -/
def patternUntil : Nat → List String → Parse Units
  | 0, _ => throw outOfFuel
  | n + 1, stops => do
    let ts ← rest
    if ts.isEmpty then return []
    if !Tokens.isPunct "::" ts && stops.any (fun w => Tokens.isPunct w ts || Tokens.isWord w ts) then
      return []
    match Tokens.lifetime? ts with
    | some l => do drop 2; return [l] ++ (← patternUntil n stops)
    | none =>
      let run := punctRun ts
      if run.length > 1 then
        drop run.length
        return [String.ofList run] ++ (← patternUntil n stops)
      match ts with
      | t :: _ =>
        drop 1
        return [render [t]] ++ (← patternUntil n stops)
      | [] => return []

/-- Outer attributes `#[...]`. -/
def attributes : Nat → Parse (List Attr)
  | 0 => throw outOfFuel
  | n + 1 => do
    if !(← peek (Tokens.isPunct "#")) then return []
    drop 1
    let a ← inGroup .bracket (attributeMeta n)
    return a :: (← attributes n)

/-- The inside of an attribute: a path, then a group or a value. -/
def attributeMeta : Nat → Parse Attr
  | 0 => throw outOfFuel
  | n + 1 => do
    let path ← if (← peek (Tokens.isWord "unsafe")) then do drop 1; pure ["unsafe"]
      else modStylePath n
    let ts ← rest
    match ts with
    | .group _ body :: _ =>
      drop 1
      return ⟨Units.text path, .list body⟩
    | _ =>
      if Tokens.isPunct "=" ts then
        drop 1
        let _ ← metaValue n
        return ⟨Units.text path, .nameValue⟩
      else return ⟨Units.text path, .word⟩

/-- The value after `=` in an attribute: a literal that ends the input, or an expression. -/
def metaValue : Nat → Parse Expr
  | 0 => throw outOfFuel
  | n + 1 => do
    let ts ← rest
    match litAt ts with
    | some (_, text, k) =>
      if ts.length == k then do drop k; return { kind := "lit", units := [text] }
      else expr n true
    | none =>
      if Tokens.isPunct "#" ts && (Tokens.group? .bracket (ts.drop 1)).isSome then
        failHere "unexpected attribute inside of attribute"
      else expr n true

/-- A path of plain segments, no arguments: the path of an attribute. -/
def modStylePath : Nat → Parse Units
  | 0 => throw outOfFuel
  | n + 1 => do
    let leading ← punct? "::"
    let segs ← modSegments n
    if segs.isEmpty then
      let _ ← ident
      throw "expected identifier"
    if segs.getLast? == some "::" then failHere "expected path segment after `::`"
    return (if leading then ["::"] else []) ++ segs

/-- The segments of a plain path, each followed by `::` when one is. -/
def modSegments : Nat → Parse Units
  | 0 => throw outOfFuel
  | n + 1 => do
    let ts ← rest
    if !(Tokens.isIdent ts || ["super", "self", "Self", "crate"].any (Tokens.isWord · ts)) then
      return []
    let x ← anyIdent
    if !(← peek (Tokens.isPunct "::")) then return [x]
    drop 2
    return [x, "::"] ++ (← modSegments n)

end

end Rules

/-- The number of tokens in `ts`, groups counted with their contents. -/
def tokenCount : List Token → Nat
  | [] => 0
  | .group _ body :: rest => 1 + tokenCount body + tokenCount rest
  | _ :: rest => 1 + tokenCount rest

/-- Fuel enough for reading `ts`. -/
def fuelFor (ts : List Token) : Nat := 32 * (tokenCount ts + 2)

end EngineSdk.NetClass
