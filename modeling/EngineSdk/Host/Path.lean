/-!
# Paths

A path is text whose components are separated by `/`.  A path starting with `/` is absolute;
its first component is the root.  A path starting with the component `.` keeps that component;
any other `.` component, and every empty one (from a doubled or a trailing `/`), is not a
component at all.

`components` lists them.  `parent` drops the last component and the separators and `.` components before it; it is
undefined when the last component is the root, and when there is no component (the empty
path).  A path that is only `.` has the empty path as its parent.

`join base p` is `p` when `p` is absolute, and otherwise `p` appended to `base` with one `/`
between them unless `base` is empty or already ends with `/`.
-/

namespace EngineSdk.Path

/-- The path is absolute. -/
def isAbsolute (p : String) : Bool := p.startsWith "/"

/-- The path starts with the component `.`. -/
def startsWithCurDir (cs : List Char) : Bool :=
  match cs with
  | ['.'] => true
  | '.' :: '/' :: _ => true
  | _ => false

/-- The number of characters before the body of the path: the root, or a leading `.`. -/
def bodyStart (cs : List Char) : Nat :=
  match cs with
  | '/' :: _ => 1
  | _ => if startsWithCurDir cs then 1 else 0

/-- The components of a path: the root or a leading `.` when the path starts with one, then
every part between separators that is neither empty nor `.`. -/
def components (p : String) : List String :=
  let cs := p.toList
  let head := if cs.take 1 = ['/'] then ["/"] else if startsWithCurDir cs then ["."] else []
  head ++ (p.splitOn "/").filter fun c => !c.isEmpty && c != "."

/-- A component of the body: not empty and not `.`. -/
def isComponent (c : List Char) : Bool := !c.isEmpty && c != ['.']

/-- The body with its trailing separators and `.` components removed, at most `fuel` of them. -/
def trimBack (start : Nat) : Nat → List Char → List Char
  | 0, cs => cs
  | fuel + 1, cs =>
    if cs.length ≤ start then cs
    else
      let body := cs.drop start
      let last := (body.reverse.takeWhile (· != '/')).reverse
      if isComponent last then cs
      else
        let size := last.length + (if last.length < body.length then 1 else 0)
        trimBack start fuel (cs.take (cs.length - size))

/-- The last component of the body and what is before it, when the body has a component. -/
def splitLast (start : Nat) : Nat → List Char → Option (List Char × List Char)
  | 0, _ => none
  | fuel + 1, cs =>
    if cs.length ≤ start then none
    else
      let body := cs.drop start
      let last := (body.reverse.takeWhile (· != '/')).reverse
      let size := last.length + (if last.length < body.length then 1 else 0)
      let rest := cs.take (cs.length - size)
      if isComponent last then some (last, rest) else splitLast start fuel rest

/-- The parent of a path. -/
def parent (p : String) : Option String :=
  let cs := p.toList
  let start := bodyStart cs
  match splitLast start (cs.length + 1) cs with
  | some (_, rest) => some (String.ofList (trimBack start (rest.length + 1) rest))
  | none =>
    if cs.take 1 = ['/'] then none
    else if startsWithCurDir cs then some ""
    else none

/-- `p` below `base`. -/
def join (base p : String) : String :=
  if isAbsolute p then p
  else if base.isEmpty || base.endsWith "/" then base ++ p
  else base ++ "/" ++ p

end EngineSdk.Path
