import EngineSdk.StandIn.Calls
import EngineSdk.Host.Files
import EngineSdk.Gamedata.Basic
import EngineSdk.Listener.Registry
import EngineSdk.Panic

/-!
# The state of a session

Loaded into a game process, the framework keeps a few things for as long as the process lives,
each set at most once unless cleared: the engine's interfaces and its global variables pointer,
the SDK's record of interfaces and signature addresses, the installed gamedata, the listener
registry, the property offset cache, the resolved offset of every field of the entity
wrappers, and the resolved addresses of its function thunks.  A `Session` holds these together
with the process around them: the stand-in engine (`World`), the files below the base
directory, and the loaded modules.

Operations run in `Run`: they read and change the session and may stop with a `Panic`; what
they changed before stopping stays changed.

`Run.call` is how the framework calls an engine object: it looks up the slot for a method key,
the gamedata offset of that name when there is one that is not negative and the default
otherwise, and calls the function there.  A null object, a slot past the table and an empty slot
give no outcome.
-/

namespace EngineSdk

open StandIn

/-- The engine's interfaces, once the engine is initialized: the five required ones are always
there, the optional ones when they were had. -/
structure EngineGlobals where
  /-- The interfaces that are present, each with the object serving it. -/
  objects : List (Interface × Ptr)
  /-- The global variables the engine's pointer points at, when it is set. -/
  globalVars : Option GlobalVars

namespace EngineGlobals

/-- The object serving an interface, when present. -/
def object? (g : EngineGlobals) (i : Interface) : Option Ptr := g.objects.lookup i

/-- The interface is present. -/
def has (g : EngineGlobals) (i : Interface) : Bool := (g.object? i).isSome

/-- The number of optional interfaces present. -/
def optionalCount (g : EngineGlobals) : Nat := (g.objects.filter (!·.1.required)).length

end EngineGlobals

/-- What the SDK recorded when it started. -/
structure SdkRecord where
  /-- Located signatures with their addresses, by name. -/
  addresses : List (String × Ptr)
  /-- The interfaces had a second time, with their objects. -/
  interfaces : List (Interface × Ptr)
  /-- Signatures that were not located, with the reason, by name. -/
  failures : List (String × String)

/-- A loaded module and whether the host's factory is registered with it. -/
structure LoadedModule where
  name : String
  registered : Bool

/-- The state of the framework in a game process, and the process around it. -/
structure Session where
  world : World
  files : FileTree
  modules : List LoadedModule
  engine : Option EngineGlobals
  sdk : Option SdkRecord
  gamedata : Option Gamedata
  listeners : ListenerRegistry
  cache : Netvar.OffsetCache
  /-- The resolved offset of each entity wrapper field, by the field's name. -/
  fieldSlots : List (String × Int)
  /-- The resolved address of the bone cache function. -/
  boneCache : Option Ptr
  /-- The function thunks made on request, by name, with their bound address. -/
  thunks : List (String × Option Ptr)
  /-- Listener calls made during the current step, with the keys called. -/
  fired : List (Event × List Nat)
  /-- Console variable setter calls made during the current step. -/
  conVarCalls : List SetterCall

/-- A computation on the session that may stop with a panic. -/
abbrev Run := ExceptT Panic (StateM Session)

namespace Run

/-- Runs a computation of the stand-in engine. -/
def onWorld {α : Type} (x : StateM World α) : Run α := do
  let s ← get
  let (a, w) := x.run s.world
  set { s with world := w }
  pure a

/-- The gamedata offset for a method key, when it is not negative; else `default`. -/
def vfuncIndex (key : String) (default : Nat) : Run Nat := do
  match (← get).gamedata with
  | some g =>
    match g.offset key with
    | .ok o => pure (if o ≥ 0 then o.toNat else default)
    | .error _ => pure default
  | none => pure default

/-- The function the slot for a method key holds in the object `p` points at. -/
def methodFor (p : Ptr) (key : String) (default : Nat) : Run (Option Method) := do
  if p.isNull then return none
  let i ← vfuncIndex key default
  pure ((← get).world.methodAt p i)

/-- Calls the method of key `key` on the object `p` points at; none when there is no function
in the slot. -/
def call (p : Ptr) (key : String) (default : Nat) (args : List Arg) : Run (Option Outcome) := do
  match ← methodFor p key default with
  | some m => some <$> onWorld (m.invoke p args)
  | none => pure none

/-- The engine, once initialized. -/
def engine? : Run (Option EngineGlobals) := do pure (← get).engine

/-- The engine's object for an interface, when the engine has it. -/
def service? (i : Interface) : Run (Option Ptr) := do
  pure ((← get).engine.bind (·.object? i))

/-- Fires a listener event: the registry's keys for it are remembered for the step. -/
def fire (e : Event) : Run Unit :=
  modify fun s => { s with fired := s.fired ++ [(e, s.listeners.fire e)] }

end Run

end EngineSdk
