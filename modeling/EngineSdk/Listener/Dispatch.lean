import EngineSdk.Listener.Registry

/-!
# Firing events into callbacks

A fire takes a snapshot of the listeners of its event's kind and only then calls them, one after
another, without holding the registry.  A callback may therefore use the registry itself: it may
register and remove listeners, clear them all, count them, or fire events of its own, and a fire
made inside a callback takes its snapshot at that moment.

`ListenerCode` is code that uses the registry, at the top level or inside a callback; a fire
carries what each listener it calls does, in the order it calls them.  `ListenerRegistry.exec`
runs such code and writes down what happened, entry by entry, in the order it happened: each
answer, and for each fire the keys of its snapshot, which are the listeners it calls.
-/

namespace EngineSdk

/-- Code that uses the listener registry, at the top level or inside a callback. -/
inductive ListenerCode where
  /-- Registers a listener of a kind. -/
  | register (kind : ListenerKind)
  /-- Removes the listener of a key. -/
  | remove (key : Nat)
  /-- Removes every listener. -/
  | clear
  /-- Counts the listeners. -/
  | count
  /-- Fires an event.  The listeners it calls run the entries of `callbacks` in turn: the first
  listener called runs the first entry, and so on; a listener with no entry does nothing. -/
  | fire (e : Event) (callbacks : List (List ListenerCode))

/-- One thing that happened on the registry, with its answer. -/
inductive ListenerLog where
  /-- A registration and the key it handed out. -/
  | registered (key : Nat) (kind : ListenerKind)
  /-- A removal and whether it found a listener. -/
  | removed (key : Nat) (found : Bool)
  /-- Every listener was removed. -/
  | cleared
  /-- A count and its answer. -/
  | counted (n : Nat)
  /-- A fire took its snapshot: the keys of the listeners it calls with `e`, in order. -/
  | fired (e : Event) (calls : List Nat)
deriving DecidableEq

namespace ListenerRegistry

mutual

/-- Runs code on the registry: what happened, in order, and the registry afterwards. -/
def exec (r : ListenerRegistry) : List ListenerCode → List ListenerLog × ListenerRegistry
  | [] => ([], r)
  | c :: cs =>
    let (l₁, r₁) := r.run c
    let (l₂, r₂) := r₁.exec cs
    (l₁ ++ l₂, r₂)

/-- Runs one call on the registry; a fire runs the callbacks of its snapshot after taking it. -/
def run (r : ListenerRegistry) : ListenerCode → List ListenerLog × ListenerRegistry
  | .register kind =>
    let (key, r') := r.register kind
    ([.registered key kind], r')
  | .remove key =>
    let (found, r') := r.remove key
    ([.removed key found], r')
  | .clear => ([.cleared], r.clear)
  | .count => ([.counted r.count], r)
  | .fire e callbacks =>
    let keys := r.fire e
    let (l, r') := r.callEach keys callbacks
    (.fired e keys :: l, r')

/-- Calls the listeners of a snapshot in turn, each running its callback. -/
def callEach (r : ListenerRegistry) :
    List Nat → List (List ListenerCode) → List ListenerLog × ListenerRegistry
  | [], _ => ([], r)
  | _ :: _, [] => ([], r)
  | _ :: keys, body :: bodies =>
    let (l₁, r₁) := r.exec body
    let (l₂, r₂) := r₁.callEach keys bodies
    (l₁ ++ l₂, r₂)

end

end ListenerRegistry

end EngineSdk
