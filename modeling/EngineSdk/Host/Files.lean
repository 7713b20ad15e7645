import EngineSdk.Host.Io
import EngineSdk.Host.Path

/-!
# A tree of files

The files the framework reads and writes live below its base directory.  A `FileTree` holds
what stands at each location below the base: a file with its bytes, or a directory.  A location
is the list of its components; the empty location is the base itself, always a directory.  The
directory holding the base holds only the base, under the name `Layout.baseName`.

Operations take paths as text relative to the base, and resolve them as the host system does:

* the path is split at `/`, empty parts dropped; `.` stays where it is and `..` goes up;
* every component but the last must name a directory: a missing one is `notFound`, a file
  `notDirectory`;
* a path ending in `/`, `.` or `..` names a directory: on a file that is `notDirectory`;
* reading a directory is `isDirectory`; creating a file at a path ending in `/`, `.` or `..`,
  or where a directory stands, is `isDirectory` too;
* making a directory where anything stands, or at a path ending in `.` or `..`, is
  `alreadyExists`;
* making a directory with all its parents makes the missing ones from the top, taking parents
  as `Path.parent` does, and is content with a directory that is already there.

A path starting at the root is outside the tree: nothing is found there.
-/

namespace EngineSdk

/-- What stands at a location. -/
inductive FileNode where
  /-- A file and its bytes. -/
  | file (bytes : List UInt8)
  /-- A directory. -/
  | dir
deriving Repr, DecidableEq

/-- Files and directories below a base directory, by location. -/
structure FileTree where
  nodes : List (List String × FileNode)
deriving Repr

namespace FileTree

/-- The tree with nothing below the base. -/
def empty : FileTree := ⟨[]⟩

/-- What stands at a location; the base is a directory. -/
def get? (t : FileTree) (p : List String) : Option FileNode :=
  if p.isEmpty then some .dir else t.nodes.lookup p

/-- The tree with `node` at the location, replacing what stood there. -/
def put (t : FileTree) (p : List String) (node : FileNode) : FileTree :=
  ⟨(t.nodes.filter (·.1 != p)) ++ [(p, node)]⟩

/-- Removes what stands at a location and everything below it. -/
def remove (t : FileTree) (p : List String) : FileTree :=
  ⟨t.nodes.filter fun (q, _) => !(p.isPrefixOf q)⟩

end FileTree

namespace Layout

/-- The name of the base directory. -/
def baseName : String := "tf2rust"

end Layout

/-- Where a walk through the tree stands: a directory below the base, by its location, or the
directory holding the base. -/
inductive Place where
  | below (p : List String)
  | aboveBase
deriving Repr, DecidableEq

/-- A path as the host reads it: whether it starts at the root, its parts between `/` without
the empty ones (`.` and `..` stay), and whether a `/` ends it. -/
structure Route where
  absolute : Bool
  parts : List String
  trailing : Bool
deriving Repr

/-- The route of a path. -/
def Route.ofText (path : String) : Route :=
  ⟨path.startsWith "/", (path.splitOn "/").filter (!·.isEmpty), path.endsWith "/"⟩

/-- A component that names the directory it is taken in, or the one above. -/
def isDotPart (c : String) : Bool := c == "." || c == ".."

/-- What a path leads to. -/
inductive Target where
  | dir (place : Place)
  | file (p : List String) (bytes : List UInt8)

namespace FileTree

/-- The directory one component leads to from a directory. -/
def step (t : FileTree) (here : Place) (c : String) : Except IoFault Place :=
  if c == "." then pure here
  else if c == ".." then
    match here with
    | .below [] => pure .aboveBase
    | .below p => pure (.below p.dropLast)
    | .aboveBase => throw .notFound
  else
    match here with
    | .aboveBase => if c == Layout.baseName then pure (.below []) else throw .notFound
    | .below p =>
      match t.get? (p ++ [c]) with
      | some .dir => pure (.below (p ++ [c]))
      | some (.file _) => throw .notDirectory
      | none => throw .notFound

/-- Walks components from a directory. -/
def walk (t : FileTree) : Place → List String → Except IoFault Place
  | here, [] => pure here
  | here, c :: cs => do t.walk (← t.step here c) cs

/-- The directory holding a route's last component, and that component; none for a route
without components. -/
def lastOf (t : FileTree) (r : Route) : Except IoFault (Option (Place × String)) :=
  match r.parts.getLast? with
  | none => pure none
  | some last => do pure (some (← t.walk (.below []) r.parts.dropLast, last))

/-- What a path leads to, following every component. -/
def stat (t : FileTree) (path : String) : Except IoFault Target := do
  let r := Route.ofText path
  if r.absolute then throw .notFound
  match ← t.lastOf r with
  | none => pure (.dir (.below []))
  | some (dir, last) =>
    if isDotPart last then pure (.dir (← t.step dir last))
    else
      match dir with
      | .aboveBase => pure (.dir (← t.step dir last))
      | .below p =>
        match t.get? (p ++ [last]) with
        | some .dir => pure (.dir (.below (p ++ [last])))
        | some (.file bytes) => if r.trailing then throw .notDirectory else pure (.file (p ++ [last]) bytes)
        | none => throw .notFound

/-- Something stands at the path. -/
def present (t : FileTree) (path : String) : Bool := (t.stat path).toBool

/-- A directory stands at the path. -/
def isDirAt (t : FileTree) (path : String) : Bool :=
  match t.stat path with
  | .ok (.dir _) => true
  | _ => false

/-- The bytes of the file at a path. -/
def read (t : FileTree) (path : String) : Except IoFault (List UInt8) := do
  match ← t.stat path with
  | .file _ bytes => pure bytes
  | .dir _ => throw .isDirectory

/-- The text of the file at a path, which must be UTF-8. -/
def readText (t : FileTree) (path : String) : Except IoFault String := do
  let bytes ← t.read path
  match String.fromUTF8? ⟨bytes.toArray⟩ with
  | some s => pure s
  | none => throw .invalidUtf8

/-- Creates or replaces the file at a path. -/
def write (t : FileTree) (path : String) (bytes : List UInt8) : Except IoFault FileTree := do
  let r := Route.ofText path
  if r.absolute then throw .notFound
  match ← t.lastOf r with
  | none => throw .isDirectory
  | some (dir, last) =>
    if isDotPart last then do
      let _ ← t.step dir last
      throw .isDirectory
    else if r.trailing then throw .isDirectory
    else
      match dir with
      | .aboveBase => if last == Layout.baseName then throw .isDirectory else throw .notFound
      | .below p =>
        if t.get? (p ++ [last]) == some .dir then throw .isDirectory
        else pure (t.put (p ++ [last]) (.file bytes))

/-- Makes one directory, whose parent must exist. -/
def mkdir (t : FileTree) (path : String) : Except IoFault FileTree := do
  let r := Route.ofText path
  if r.absolute then throw .notFound
  match ← t.lastOf r with
  | none => throw .alreadyExists
  | some (dir, last) =>
    if isDotPart last then do
      let _ ← t.step dir last
      throw .alreadyExists
    else
      match dir with
      | .aboveBase => if last == Layout.baseName then throw .alreadyExists else throw .notFound
      | .below p =>
        if (t.get? (p ++ [last])).isSome then throw .alreadyExists
        else pure (t.put (p ++ [last]) .dir)

/-- Makes a directory and the missing ones above it, going up at most `fuel` parents. -/
def createDirAllUpTo : Nat → FileTree → String → Except IoFault FileTree
  | 0, t, _ => pure t
  | fuel + 1, t, path =>
    if path.isEmpty then pure t
    else
      match t.mkdir path with
      | .ok t' => pure t'
      | .error e =>
        if e != .notFound then (if t.isDirAt path then pure t else throw e)
        else
          match Path.parent path with
          | none => throw e
          | some up => do
            let t ← createDirAllUpTo fuel t up
            match t.mkdir path with
            | .ok t' => pure t'
            | .error e => if t.isDirAt path then pure t else throw e

/-- Makes a directory and every missing one above it. -/
def createDirAll (t : FileTree) (path : String) : Except IoFault FileTree :=
  createDirAllUpTo (path.length + 1) t path

/-- Removes what a path leads to and everything below it; nothing when it leads nowhere. -/
def removeAt (t : FileTree) (path : String) : FileTree :=
  match t.stat path with
  | .ok (.file p _) => t.remove p
  | .ok (.dir (.below p)) => if p.isEmpty then t else t.remove p
  | _ => t

end FileTree

end EngineSdk
