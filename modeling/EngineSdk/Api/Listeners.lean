import EngineSdk.Api.Basic
import EngineSdk.Listener.Registry

/-!
# Requests on listeners

A request runs steps on an empty registry.  Every registered listener records each call it gets
with what the event told it; a step answers its value and the calls made during it, sorted
by key.
-/

namespace EngineSdk.Api

/-- A listener kind by name. -/
def listenerKindIn (j : Json) : Reply ListenerKind := do
  match ← strIn j with
  | "level_init" => pure .levelInit
  | "server_activate" => pure .serverActivate
  | "game_frame" => pure .gameFrame
  | "level_shutdown" => pure .levelShutdown
  | "client_active" => pure .clientActive
  | "client_disconnect" => pure .clientDisconnect
  | "frame_stage" => pure .frameStage
  | _ => refuse "unknown listener kind"

/-- What a listener records of an event. -/
def eventPayload : Event → Json
  | .levelInit map => .str map
  | .serverActivate n => Json.int n
  | .gameFrame b => .bool b
  | .levelShutdown => .null
  | .clientActive s => Json.int s
  | .clientDisconnect s => Json.int s
  | .frameStage s => .str (Coded.label s)

/-- The event of a `fire_*` step. -/
def eventIn (op : String) (step : Json) : Reply (Option Event) := do
  match op with
  | "fire_level_init" => pure (some (.levelInit (← strIn (← need step "map"))))
  | "fire_server_activate" => pure (some (.serverActivate (← i32In "max_clients" (← need step "max_clients"))))
  | "fire_game_frame" => pure (some (.gameFrame (← boolIn (← need step "simulating"))))
  | "fire_level_shutdown" => pure (some .levelShutdown)
  | "fire_client_active" => pure (some (.clientActive (← i32In "slot" (← need step "slot"))))
  | "fire_client_disconnect" => pure (some (.clientDisconnect (← i32In "slot" (← need step "slot"))))
  | "fire_frame_stage" =>
    match Coded.decode? (← i32In "stage" (← need step "stage")) with
    | some s => pure (some (.frameStage s))
    | none => refuse "bad stage"
  | _ => pure none

/-- The calls of a fired event, as answered: sorted by key. -/
def firedJson (e : Event) (keys : List Nat) : Json :=
  .arr ((keys.mergeSort fun a b => decide (a ≤ b)).map fun (k : Nat) => .arr [Json.int k, eventPayload e])

/-- One step on the registry: its value, the listener calls and the registry afterwards. -/
def listenerStep (r : ListenerRegistry) (step : Json) : Reply (Json × Json × ListenerRegistry) := do
  let op ← match step.get? "op" with
    | some o => strIn o
    | none => refuse "step without op"
  if let some e ← eventIn op step then
    return (.null, firedJson e (r.fire e), r)
  match op with
  | "register" =>
    let (key, r) := r.register (← listenerKindIn (← need step "kind"))
    pure (Json.int key, .arr [], r)
  | "remove" =>
    let id ← natIn (← need step "id")
    if id ≥ r.nextKey then refuse "unknown listener id"
    else
      let (found, r) := r.remove id
      pure (.bool found, .arr [], r)
  | "remove_default" => pure (.bool false, .arr [], r)
  | "count" => pure (Json.int r.count, .arr [], r)
  | "clear_all" | "shutdown" => pure (.null, .arr [], r.clear)
  | _ => refuse "unknown listeners op"

/-- A `listeners` request. -/
def listenersOp (req : Json) : Reply Json := do
  let (steps, _) := (← optIn req "ops" [] arrIn).foldl (fun (acc, r) step =>
      match listenerStep r step with
      | .ok (v, fired, r') => (acc ++ [Json.obj [("result", v), ("fired", fired)]], r')
      | .error e => (acc ++ [Json.obj [("result", failJson e), ("fired", .arr [])]], r))
    ([], ListenerRegistry.empty)
  pure (.obj [("steps", .arr steps)])

end EngineSdk.Api
