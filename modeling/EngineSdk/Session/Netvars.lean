import EngineSdk.Session.State
import EngineSdk.Netvar.Field
import EngineSdk.Entity.Netvars

/-!
# Network variables through the engine

The framework finds property offsets in the client's class list, which it asks the client for
through the engine: without an engine, without the client's method, or with a null list the
lookup fails with `notInitialized`.  Found offsets go to the session's cache.

Every field of the entity wrappers keeps its resolved offset in a slot of its own, named by the
wrapper and the field; a field resolves once, and a failed resolution leaves the slot empty.
-/

namespace EngineSdk.Run

open StandIn Netvar

/-- The client's class list, from the class the client names as the head. -/
def classHead : Run (Except RecvPropError Registry) := do
  match ← engine? with
  | none => pure (.error .notInitialized)
  | some _ =>
    match ← call (.iface .clientDll) "IBaseClientDLL::GetAllClasses" 8 [] with
    | none => pure (.error .notInitialized)
    | some o =>
      match o.result.asPtr with
      | .clientClass k =>
        let r := (← get).world.classes
        pure (.ok { r with classes := r.classes.drop k })
      | _ => pure (.error .notInitialized)

/-- Runs a lookup on the session's cache; what it cached stays cached when it stops. -/
def onCache {α : Type} (l : Lookup α) : Run α := do
  let s ← get
  let (r, c) := l.run.run s.cache
  set { s with cache := c }
  match r with
  | .ok a => pure a
  | .error p => throw p

/-- The offset of `table.prop`. -/
def propOffset (table prop : String) : Run (Except RecvPropError PropOffset) := do
  let head ← classHead
  onCache (offsetVia head table prop)

/-- The offsets of several pairs in turn. -/
def prefetch (pairs : List (String × String)) : Run (List (Except RecvPropError PropOffset)) := do
  let head ← classHead
  onCache (prefetchVia head pairs)

/-- Resolves every property the entity wrappers use: the number resolved. -/
def prefetchNetvars : Run Nat := do
  let head ← classHead
  onCache (Entity.prefetchKnown head)

/-- The listing of a table. -/
def dumpTable (table : String) : Run (Except RecvPropError (List String)) := do
  let head ← classHead
  match dumpVia head table with
  | .ok r => pure r
  | .error p => throw p

/-- The offset of a wrapper field, resolving it into its slot `cell` when needed. -/
def fieldOffset (cell table prop : String) : Run (Except RecvPropError Int) := do
  let head ← classHead
  let slot := (← get).fieldSlots.lookup cell
  let (r, slot') ← onCache (resolveSlot head table prop slot)
  match slot, slot' with
  | none, some o => modify fun s => { s with fieldSlots := s.fieldSlots ++ [(cell, o)] }
  | _, _ => pure ()
  pure r

end EngineSdk.Run
