import EngineSdk.Netvar.Table
import EngineSdk.Netvar.Hash

/-!
# Property offsets and their cache

Looking a property up by table and property name walks the client's tables, so results are kept
in a cache.  The cache is keyed by `combinedKey` of the two names: two pairs with the same key
share one entry.  Only successful lookups are cached, and a cached answer is returned without
looking at the tables at all.

A `Registry` is what the client exposes: the tables and the list of client classes.  The
lookups that go through the engine take the registry as `Except RecvPropError Registry`, failing
with `notInitialized` when the engine offers no class list.
-/

namespace EngineSdk.Netvar

/-- Why a property could not be found. -/
inductive RecvPropError where
  /-- There is no class list to search. -/
  | notInitialized
  /-- No table has the name. -/
  | tableNotFound (table : String)
  /-- The table has no property of the name, not even below it. -/
  | propNotFound (table prop : String)
deriving Repr, DecidableEq

/-- The text of a lookup error. -/
def RecvPropError.message : RecvPropError → String
  | .notInitialized => "Client class list not available"
  | .tableNotFound t => "Table not found: " ++ t
  | .propNotFound t p => "Prop not found: " ++ t ++ "." ++ p

/-- The name of the kind of a lookup error. -/
def RecvPropError.kind : RecvPropError → String
  | .notInitialized => "NotInitialized"
  | .tableNotFound _ => "TableNotFound"
  | .propNotFound _ _ => "PropNotFound"

/-- The cache key of a pair of names. -/
def keyOf (table prop : String) : UInt64 := combinedKey table.toUTF8.toList prop.toUTF8.toList

/-- Found offsets by key, each key once, in the order first stored. -/
structure OffsetCache where
  entries : List (UInt64 × PropOffset)
deriving Repr

namespace OffsetCache

/-- The empty cache. -/
def empty : OffsetCache := ⟨[]⟩

/-- The entry stored under the key of a pair of names. -/
def find? (c : OffsetCache) (table prop : String) : Option PropOffset :=
  c.entries.lookup (keyOf table prop)

/-- Stores an offset under the key of a pair of names, replacing the key's entry. -/
def insert (c : OffsetCache) (table prop : String) (o : PropOffset) : OffsetCache :=
  let k := keyOf table prop
  if c.entries.any (·.1 == k) then ⟨c.entries.map fun e => if e.1 == k then (k, o) else e⟩
  else ⟨c.entries ++ [(k, o)]⟩

/-- The number of entries. -/
def size (c : OffsetCache) : Nat := c.entries.length

end OffsetCache

/-- The tables of a client and its list of classes, in link order. -/
structure Registry where
  arena : Arena
  classes : List ClientClass
deriving Repr

/-- A lookup that reads and may fill the cache, and may stop the call; what it stored before
stopping stays stored. -/
abbrev Lookup := ExceptT Panic (StateM OffsetCache)

namespace Registry

/-- The table named `table`, by index. -/
def findTable (r : Registry) (table : String) : Option Nat :=
  r.arena.findTable r.classes table.toUTF8.toList

/-- The offset of `table.prop`: from the cache when it has the key, otherwise by searching the
tables and caching the result. -/
def offsetOf (r : Registry) (table prop : String) : Lookup (Except RecvPropError PropOffset) := do
  match (← get).find? table prop with
  | some hit => pure (.ok hit)
  | none =>
    match r.findTable table with
    | none => pure (.error (.tableNotFound table))
    | some t =>
      match ← ExceptT.mk (pure (r.arena.findProp (some t) prop.toUTF8.toList)) with
      | none => pure (.error (.propNotFound table prop))
      | some o =>
        modify (·.insert table prop o)
        pure (.ok o)

/-- The offsets of several pairs in turn; without classes every pair fails with
`notInitialized`. -/
def prefetch (r : Registry) (pairs : List (String × String)) :
    Lookup (List (Except RecvPropError PropOffset)) :=
  if r.classes.isEmpty then pure (pairs.map fun _ => .error .notInitialized)
  else pairs.mapM fun (t, p) => r.offsetOf t p

end Registry

/-- The offset of `table.prop` through the engine: a cached answer first, then a search of the
engine's registry when there is one. -/
def offsetVia (head : Except RecvPropError Registry) (table prop : String) :
    Lookup (Except RecvPropError PropOffset) := do
  match (← get).find? table prop with
  | some hit => pure (.ok hit)
  | none =>
    match head with
    | .error e => pure (.error e)
    | .ok r => r.offsetOf table prop

/-- The offsets of several pairs through the engine; without a registry every pair fails with
its error, cached or not. -/
def prefetchVia (head : Except RecvPropError Registry) (pairs : List (String × String)) :
    Lookup (List (Except RecvPropError PropOffset)) :=
  match head with
  | .error _ => pure (pairs.map fun _ => .error .notInitialized)
  | .ok r => r.prefetch pairs

/-- The listing of a table found by name through the engine. -/
def dumpVia (head : Except RecvPropError Registry) (table : String) :
    Except Panic (Except RecvPropError (List String)) :=
  match head with
  | .error e => .ok (.error e)
  | .ok r =>
    match r.findTable table with
    | none => .ok (.error (.tableNotFound table))
    | some t => (r.arena.dump (some t)).map .ok

end EngineSdk.Netvar
