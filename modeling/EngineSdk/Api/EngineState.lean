import EngineSdk.Api.EngineWorld
import EngineSdk.Api.Config
import EngineSdk.Api.Gamedata
import EngineSdk.Api.Listeners
import EngineSdk.Session.Startup
import EngineSdk.Session.Plugin
import EngineSdk.Session.Entities
import EngineSdk.Config.Plugin
import EngineSdk.Game.MaterialFlags

/-!
# Steps on a session

The steps of an `engine` request run on one session, in order.  A step may be refused for its
arguments, answer a value, or stop with a panic; the session keeps what the step changed before
it stopped.  `StepM` is `Run` with refusals added.

This module also holds the answers about the session's state: pointers, the SDK's record, the
installed gamedata, the global variables and the engine's interfaces.  A pointer is answered by
what it points at: an interface object by its name, an entity, material, model, class or
console variable by its index, null as null and anything else as `foreign`.
-/

namespace EngineSdk.Api

open StandIn

/-- A step on a session that may be refused. -/
abbrev StepM := ExceptT Refusal Run

/-- The value of a read argument, or the step's refusal. -/
def ask {α : Type} (r : Reply α) : StepM α :=
  match r with
  | .ok a => pure a
  | .error e => throwThe Refusal e

/-- A required argument. -/
def argOf {α : Type} (step : Json) (k : String) (f : Json → Reply α) : StepM α :=
  ask (do f (← need step k))

/-- An optional argument with its default. -/
def optArg {α : Type} (step : Json) (k : String) (d : α) (f : Json → Reply α) : StepM α :=
  ask (optIn step k d f)

/-- Refuses the step. -/
def refuseStep {α : Type} (m : String) : StepM α := throwThe Refusal ⟨"bad_input", m⟩

/-- A pointer as answered. -/
def ptrJson : Ptr → Json
  | .null => .null
  | .iface i => .str i.name
  | .entity e _ => Json.int e
  | .clientClass c => Json.int c
  | .model m => Json.int m
  | .studio m => Json.int m
  | .material m => Json.int m
  | .physics p => Json.int p
  | .conVar v => Json.int v
  | .edict e => Json.int e
  | _ => .str "foreign"

/-- An optional pointer as answered. -/
def optPtrJson (p : Option Ptr) : Json := optJson ptrJson p

/-- An SDK error as answered: the interface and gamedata errors carry their own kind. -/
def sdkErrorJson : SdkError → Json
  | .interface e => .obj [("error", .str "Interface"), ("kind", .str e.kind), ("message", .str e.message)]
  | .gamedata e => .obj [("error", .str "Gamedata"), ("kind", .str e.kind), ("message", .str e.message)]
  | .alreadyInitialized => errorJson "AlreadyInitialized" SdkError.alreadyInitialized.message

/-- A code address as answered. -/
def codeJson : Ptr → Json
  | .code m off => .str (codeText m off)
  | .hostFunction => .obj [("target", .str "driver"), ("call", Json.int 42)]
  | _ => .str "unknown"

/-- The SDK's record. -/
def sdkJson (r : SdkRecord) : Json :=
  let failed := (r.failures.map Prod.fst).mergeSort (fun a b => decide (a ≤ b))
  .obj [("resolved_count", Json.int r.addresses.length),
    ("failed", .arr (failed.map .str)),
    ("reasons", .arr (failed.map fun n => .str ((r.failures.lookup n).getD ""))),
    ("interfaces", .obj (Interface.all.map fun i => (i.name, optPtrJson (r.interfaces.lookup i)))),
    ("addresses", .obj (r.addresses.map fun (n, p) => (n, codeJson p)))]

/-- The counts of a gamedata file. -/
def gamedataCountsJson (g : Gamedata) : Json :=
  .obj [("signatures", Json.int g.signatures.length), ("offsets", Json.int g.offsets.length)]

/-- A gamedata error as answered. -/
def gamedataErrorJson (e : GamedataError) : Json := errorJson e.kind e.message

/-- The installed gamedata: its signature names, sorted, and its number of offsets. -/
def gamedataJson (g : Gamedata) : Json :=
  .obj [("signatures", .arr ((g.signatureNames.mergeSort (fun a b => decide (a ≤ b))).map .str)),
    ("offsets", Json.int g.offsets.length)]

/-- A global variables block with the conversions asked for. -/
def globalVarsJson (g : GlobalVars) (ticks : List Int) (times : List Float32) : Json :=
  .obj [("realtime", f32Out g.realtime), ("frame_count", Json.int g.frameCount),
    ("curtime", f32Out g.curtime), ("frame_time", f32Out g.frameTime),
    ("max_clients", Json.int g.maxClients), ("tick_count", Json.int g.tickCount),
    ("interval_per_tick", f32Out g.intervalPerTick), ("is_client", .bool g.isClient),
    ("ticks_to_time", .arr (ticks.map fun t => f32Out (g.ticksToTime t))),
    ("time_to_ticks", .arr (times.map fun t => Json.int (g.timeToTicks t)))]

/-- The engine's state: whether it is initialized and, once it is, its interfaces. -/
def engineStateJson (e : Option EngineGlobals) : Json :=
  match e with
  | none => .obj [("initialized", .bool false), ("main_thread", .bool false)]
  | some g =>
    .obj [("initialized", .bool true), ("main_thread", .bool true),
      ("optional_count", Json.int g.optionalCount),
      ("engine_client", .str Interface.engineClient.name), ("client", .str Interface.clientDll.name),
      ("entity_list", .str Interface.clientEntityList.name),
      ("model_info", .str Interface.modelInfo.name), ("cvar", .str Interface.cvar.name),
      ("material_system", .bool (g.has .materialSystem)), ("panel", .bool (g.has .panel)),
      ("engine_server", .bool (g.has .engineServer)),
      ("player_info_manager", .bool (g.has .playerInfoManager)),
      ("server_game_dll", .bool (g.has .serverGameDll)),
      ("global_vars", .bool g.globalVars.isSome)]

/-- A call the material system or a material remembers. -/
def materialCallJson : MaterialCall → Json
  | .find name group complain =>
    .arr [.str "find", .str (Utf8.decodeLossy name), .str (Utf8.decodeLossy group), .bool complain]
  | .setFlag m flag on => .arr [.str "set_var_flag", Json.int m, Json.int flag, .bool on]

/-- What the stand-in engine remembers of the calls made on it. -/
def logJson (w : World) : Json :=
  .obj [("commands", .arr (w.commands.map .str)),
    ("materials", .arr (w.materialCalls.map materialCallJson)),
    ("setup_bones", .arr (w.boneCalls.map fun c =>
      .arr [Json.int c.entity, Json.int c.maxBones, Json.int c.mask, f32Out c.time])),
    ("factory", .arr (w.factoryCalls.map fun c =>
      .arr [.str c.module, .str c.version, .str (if c.supplied then "supplied" else "export")]))]

/-- The listener calls of a step, sorted by listener id. -/
def callsJson (fired : List (Event × List Nat)) : List Json :=
  let calls := fired.flatMap fun (e, keys) => keys.map fun k => (k, eventPayload e)
  (calls.mergeSort fun a b => decide (a.1 ≤ b.1)).map fun (k, p) => .arr [Json.int k, p]

end EngineSdk.Api
