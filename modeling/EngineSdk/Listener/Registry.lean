import EngineSdk.Game.Codes

/-!
# Listeners

Plugins subscribe to engine events by registering listeners.  Each registration gets a key
that is never handed out again, so removing a listener twice, or after the registry was
cleared, removes nothing.  Firing an event calls every listener of the event's kind that is
registered at that moment.

The registry keeps its listeners in slots.  Removing a listener frees its slot, and clearing
frees every taken slot in slot order; a registration takes the slot freed last, or a new slot at
the end when none is free.  A fire calls the listeners in slot order, so after a removal or a
clear that order is not the order of registration.
-/

namespace EngineSdk

/-- The kinds of events a listener can subscribe to. -/
inductive ListenerKind where
  | levelInit
  | serverActivate
  | gameFrame
  | levelShutdown
  | clientActive
  | clientDisconnect
  | frameStage
deriving DecidableEq, Repr

/-- An event, with what it tells its listeners. -/
inductive Event where
  /-- A map starts loading. -/
  | levelInit (map : String)
  /-- The server starts, for at most `maxClients` players. -/
  | serverActivate (maxClients : Int)
  /-- A server frame runs. -/
  | gameFrame (simulating : Bool)
  /-- The map is unloaded. -/
  | levelShutdown
  /-- A player in `slot` becomes active. -/
  | clientActive (slot : Int)
  /-- A player in `slot` leaves. -/
  | clientDisconnect (slot : Int)
  /-- The client reaches a stage of its frame. -/
  | frameStage (stage : FrameStage)
deriving DecidableEq

/-- The kind of listener an event is for. -/
def Event.kind : Event → ListenerKind
  | .levelInit _ => .levelInit
  | .serverActivate _ => .serverActivate
  | .gameFrame _ => .gameFrame
  | .levelShutdown => .levelShutdown
  | .clientActive _ => .clientActive
  | .clientDisconnect _ => .clientDisconnect
  | .frameStage _ => .frameStage

/-- The listeners in their slots, the free slots, and the next key to hand out. -/
structure ListenerRegistry where
  /-- Each slot: the key and kind of its listener, or none when it is free. -/
  slots : List (Option (Nat × ListenerKind))
  /-- The free slots, the one freed last first. -/
  free : List Nat
  nextKey : Nat

namespace ListenerRegistry

/-- No listeners; keys start at zero. -/
def empty : ListenerRegistry := ⟨[], [], 0⟩

/-- The listeners, in slot order. -/
def live (r : ListenerRegistry) : List (Nat × ListenerKind) := r.slots.filterMap id

/-- Registers a listener in the slot freed last, or in a new slot: its key and the registry
afterwards. -/
def register (r : ListenerRegistry) (k : ListenerKind) : Nat × ListenerRegistry :=
  match r.free with
  | [] => (r.nextKey, ⟨r.slots ++ [some (r.nextKey, k)], [], r.nextKey + 1⟩)
  | j :: rest => (r.nextKey, ⟨r.slots.set j (some (r.nextKey, k)), rest, r.nextKey + 1⟩)

/-- The slot that holds the listener of a key. -/
def slotOf? (r : ListenerRegistry) (key : Nat) : Option Nat :=
  r.slots.findIdx? fun s => s.any (·.1 == key)

/-- Removes the listener of a key, freeing its slot: whether there was one, and the registry
afterwards. -/
def remove (r : ListenerRegistry) (key : Nat) : Bool × ListenerRegistry :=
  match r.slotOf? key with
  | none => (false, r)
  | some j => (true, { r with slots := r.slots.set j none, free := j :: r.free })

/-- The taken slots, in slot order. -/
def taken (r : ListenerRegistry) : List Nat :=
  (List.range r.slots.length).filter fun j => (r.slots[j]?.bind id).isSome

/-- Removes every listener, freeing the taken slots in slot order; keys already handed out stay
used. -/
def clear (r : ListenerRegistry) : ListenerRegistry :=
  ⟨r.slots.map fun _ => none, r.taken.reverse ++ r.free, r.nextKey⟩

/-- The number of listeners. -/
def count (r : ListenerRegistry) : Nat := r.live.length

@[simp] theorem live_clear (r : ListenerRegistry) : r.clear.live = [] := by
  simp [clear, live]

@[simp] theorem count_clear (r : ListenerRegistry) : r.clear.count = 0 := by
  simp [count]

/-- The keys of the listeners an event calls, in the order it calls them: slot order. -/
def fire (r : ListenerRegistry) (e : Event) : List Nat :=
  (r.live.filter (·.2 == e.kind)).map (·.1)

end ListenerRegistry

end EngineSdk
