import EngineSdk.Api.Netvar
import EngineSdk.Api.Studio
import EngineSdk.Api.Convar
import EngineSdk.StandIn.World

/-!
# Describing the stand-in engine

An `engine` request describes the stand-in engine object by object; every part may be left out.
This module reads that description into a `World`, refusing what no engine could hold: fixed
name buffers overrun or holding a NUL, a reference to a table, class or entity that is not
there, an entity smaller than its three method tables or a write outside its memory.
-/

namespace EngineSdk.Api

open StandIn

/-- A member of an object, or an empty object when it is absent or null. -/
def partIn (j : Json) (k : String) : Json :=
  match j.get? k with
  | none | some .null => .obj []
  | some v => v

/-- A list of slot numbers. -/
def slotsIn (j : Json) : Reply (List Nat) := do (← arrIn j).mapM natIn

/-- The `missing` slots of an object. -/
def missingIn (j : Json) : Reply (List Nat) := optIn j "missing" [] slotsIn

/-- The bytes of a fixed buffer of `size` bytes that ends in a NUL. -/
def fixedIn (size : Nat) (j : Json) : Reply (List UInt8) := do
  let bs ← bytesIn j
  if bs.length > size ∨ bs.contains 0 then refuse "fixed string too long or has NUL" else pure bs

/-- An integer key of an object. -/
def keyIn (k : String) : Reply Int :=
  match k.toInt? with
  | some i => pure i
  | none => refuse "object keys are integers"

/-- A matrix of fixed size. -/
def fixedMatrixIn (r c : Nat) (what : String) (j : Json) : Reply (Matrix r c) := do
  let rows ← (← arrIn j).mapM (vecIn c what)
  if h : rows.length = r then pure ⟨⟨rows.toArray, by simpa using h⟩⟩
  else refuse (what ++ " has wrong length")

/-- A pair of numbers `[outgoing, incoming]`. -/
def f32PairIn (what : String) (j : Json) : Reply (Float32 × Float32) := do
  match ← arrIn j with
  | [a, b] => pure (← f32In a, ← f32In b)
  | _ => refuse (what ++ " is a pair")

/-- A pair of 32-bit integers `[outgoing, incoming]`. -/
def i32PairIn (what : String) (j : Json) : Reply (Int × Int) := do
  match ← arrIn j with
  | [a, b] => pure (← i32In what a, ← i32In what b)
  | _ => refuse (what ++ " is a pair")

/-- The name of a flow statistic in a description. -/
def flowKey : FlowStat → String
  | .latency => "latency"
  | .avgLatency => "avg_latency"
  | .avgLoss => "avg_loss"
  | .avgChoke => "avg_choke"
  | .avgData => "avg_data"
  | .avgPackets => "avg_packets"
  | .totalData => "total_data"
  | .sequenceNr => "sequence_nr"

/-- A network channel. -/
def netChannelIn (j : Json) : Reply NetChannel := do
  let rateStats : List FlowStat := [.latency, .avgLatency, .avgLoss, .avgChoke, .avgData, .avgPackets]
  let rates ← rateStats.mapM fun k => do pure (k, ← optIn j (flowKey k) (0, 0) (f32PairIn (flowKey k)))
  let counts ← [FlowStat.totalData, .sequenceNr].mapM fun k => do
    pure (k, ← optIn j (flowKey k) (0, 0) (i32PairIn (flowKey k)))
  pure {
    name := ← optIn j "name" none cstrIn
    address := ← optIn j "address" none cstrIn
    time := ← optIn j "time" 0 f32In
    timeConnected := ← optIn j "time_connected" 0 f32In
    loopback := ← optIn j "loopback" false boolIn
    timingOut := ← optIn j "timing_out" false boolIn
    rates := fun k => (rates.lookup k).getD (0, 0)
    counts := fun k => (counts.lookup k).getD (0, 0)
    missing := ← missingIn j }

/-- A player's information record. -/
def playerIn (j : Json) : Reply PlayerRecord := do
  pure {
    name := ← optIn j "name" [] (fixedIn 32)
    userId := ← optIn j "user_id" 0 (i32In "user_id")
    guid := ← optIn j "guid" [] (fixedIn 33)
    friendsId := (← optIn j "friends_id" 0 u32In).toNat
    friendsName := ← optIn j "friends_name" [] (fixedIn 32)
    fakePlayer := ← optIn j "fake_player" false boolIn
    hltv := ← optIn j "is_hltv" false boolIn
    replay := ← optIn j "is_replay" false boolIn }

/-- The engine client. -/
def engineClientIn (j : Json) : Reply EngineClient := do
  let players ← (partIn j "players").entries.mapM fun (k, v) => do pure (← keyIn k, ← playerIn v)
  let userIds ← (partIn j "user_ids").entries.mapM fun (k, v) => do
    pure (← keyIn k, ← i32In "index" v)
  pure {
    screen := ← optIn j "screen" (0, 0) (i32PairIn "screen")
    players := players
    userIds := userIds
    localPlayer := ← optIn j "local_player" 0 (i32In "local_player")
    viewAngles := ← optIn j "view_angles" Vec.zero (vecIn 3 "view_angles")
    maxClients := ← optIn j "max_clients" 0 (i32In "max_clients")
    inGame := ← optIn j "in_game" false boolIn
    connected := ← optIn j "connected" false boolIn
    worldToScreen := ← optIn j "w2s" none fun m => do pure (some (← fixedMatrixIn 4 4 "w2s" m))
    levelName := ← optIn j "level_name" none cstrIn
    netChannel := ← optIn j "net_channel" none fun c => do pure (some (← netChannelIn c)) }

/-- The least and the most bytes of entity memory. -/
def entitySizeRange : Nat × Nat := (64, Nat.pow 2 20)

/-- The first byte of entity memory that data may be written to, past the method tables. -/
def entityDataStart : Nat := 24

/-- The bytes of one data write. -/
def dataBytesIn (d : Json) : Reply (List UInt8) := do
  let one (k : String) (f : Json → Reply (List UInt8)) : Option (Reply (List UInt8)) :=
    (d.get? k).map f
  let options : List (Option (Reply (List UInt8))) :=
    [one "i32" fun v => do pure (Cell.i32.encode (← i32In "i32" v)),
     one "u32" fun v => do pure (Cell.u32.encode (← u32In v).toNat),
     one "f32" fun v => do pure (LittleEndian.ofNat 4 (← f32BitsIn v).toNat),
     one "u8" fun v => do
       let n ← natIn v
       if n < 256 then pure [n.toUInt8] else refuse "value out of u8 range",
     one "vec3" fun v => do pure ((← vecIn 3 "vec3" v).toList.flatMap Cell.f32.encode),
     one "u64" fun v => do
       let n ← natIn v
       if n < Nat.pow 2 64 then pure (Cell.u64.encode n) else refuse "value out of u64 range",
     one "hex" hexIn]
  match options.filterMap id with
  | r :: _ => r
  | [] => refuse "data entry without a value"

/-- Writes the `data` entries into zeroed memory of `size` bytes. -/
def memoryIn (size : Nat) (j : Json) : Reply (List UInt8) := do
  let writes ← optIn j "data" [] arrIn
  let write (mem : List UInt8) (d : Json) : Reply (List UInt8) := do
    let start ← natIn (← need d "at")
    let bytes ← dataBytesIn d
    if start < entityDataStart ∨ start + bytes.length > size then
      refuse "data write outside entity memory"
    else pure (Cell.writeBytes mem start bytes)
  writes.foldlM write (List.replicate size 0)

/-- The functions of an entity a `missing_fns` name empties. -/
def missingFnIn (j : Json) : Reply (EntityPart × Nat) := do
  match ← strIn j with
  | "abs_origin" => pure (.unknown, 9)
  | "abs_angles" => pure (.unknown, 10)
  | "model" => pure (.renderable, 9)
  | "setup_bones" => pure (.renderable, 16)
  | "client_class" => pure (.networkable, 2)
  | "is_dormant" => pure (.networkable, 8)
  | "entindex" => pure (.networkable, 9)
  | _ => refuse "unknown entity function"

/-- An optional reference into a list of `count` items. -/
def indexIn (count : Nat) (what : String) (j : Json) : Reply (Option Nat) := do
  let i ← natIn j
  if i < count then pure (some i) else refuse (what ++ " index out of range")

/-- The entity at position `pos`, with `classes` classes and `models` models. -/
def entityIn (classes models : Nat) (pos : Nat) (j : Json) : Reply Entity := do
  let size ← optIn j "size" 0x400 natIn
  if size < entitySizeRange.1 ∨ size > entitySizeRange.2 then refuse "entity size out of range"
  else
  let fns ← optIn j "missing_fns" [] fun l => do (← arrIn l).mapM missingFnIn
  let everywhere := (← missingIn j).flatMap fun i => [(EntityPart.unknown, i), (.renderable, i), (.networkable, i)]
  pure {
    memory := ← memoryIn size j
    hasTables := !(← optIn j "null_vtables" false boolIn)
    origin := ← optIn j "origin" none fun v => do pure (some (← vecIn 3 "origin" v))
    angles := ← optIn j "angles" none fun v => do pure (some (← vecIn 3 "angles" v))
    model := ← optIn j "model" none (indexIn models "model")
    bones := ← optIn j "bones" [] fun l => do (← arrIn l).mapM (fixedMatrixIn 3 4 "bone")
    setupOk := ← optIn j "setup_ok" true boolIn
    clientClass := ← optIn j "class" none (indexIn classes "class")
    dormant := ← optIn j "dormant" false boolIn
    index := ← optIn j "index" (pos : Int) (i32In "index")
    nulled := fns ++ everywhere }

/-- The entity list over `count` entities. -/
def entityListIn (count : Nat) (j : Json) : Reply StandIn.EntityList := do
  let slots ← optIn j "slots" ((List.range count).map fun e => ⟨some e, 1⟩) fun l => do
    (← arrIn l).mapM fun s => do
      pure ⟨← optIn s "entity" none (indexIn count "entity"), ← optIn s "serial" 1 natIn⟩
  let highest ← optIn j "highest" ((slots.length : Int) - 1) (i32In "highest")
  pure {
    slots := slots
    highest := min highest 5000
    count := ← optIn j "count" (0, 0) (i32PairIn "count")
    max := ← optIn j "max" 2048 (i32In "max") }

/-- The models. -/
def modelsIn (j : Json) : Reply (List Model) := do
  (← optIn j "models" [] arrIn).zipIdx.mapM fun (m, i) => do
    pure {
      name := ← optIn m "name" none cstrIn
      index := ← optIn m "index" (i : Int) (i32In "index")
      studio := ← optIn m "studio" none fun s => do pure (some (← studioIn s)) }

/-- The materials; each starts fully opaque and white. -/
def materialsIn (j : Json) : Reply (List Material) := do
  (← optIn j "materials" [] arrIn).mapM fun m => do
    pure {
      name := ← optIn m "name" none cstrIn
      group := ← optIn m "group" none cstrIn
      flags := (← optIn m "flags" 0 u32In).toNat
      alpha := 1
      color := Vec.splat 1
      missing := ← missingIn m }

/-- The panels' names, by panel id. -/
def panelsIn (j : Json) : Reply (List (Nat × CString)) := do
  (partIn j "names").entries.mapM fun (k, v) => do
    match k.toNat? with
    | some id => pure (id, ← cstrIn v)
    | none => refuse "panel ids are non-negative integers"

/-- A global variables block. -/
def globalVarsIn (j : Json) : Reply GlobalVars := do
  let f (k : String) : Reply Float32 := optIn j k 0 f32In
  let i (k : String) : Reply Int := optIn j k 0 (i32In k)
  pure ⟨← f "realtime", ← i "frame_count", ← f "absolute_frame_time", ← f "curtime",
    ← f "frame_time", ← i "max_clients", ← i "tick_count", ← f "interval_per_tick",
    ← f "interpolation_amount", ← i "sim_ticks_this_frame", ← i "network_protocol",
    ← optIn j "is_client" false boolIn⟩

/-- The player information manager's global variables: absent gives a zeroed block, null no
block. -/
def pimVarsIn (j : Json) : Reply (Option GlobalVars) :=
  match j.get? "global_vars" with
  | none => pure (some GlobalVars.zero)
  | some .null => pure none
  | some v => do pure (some (← globalVarsIn v))

/-- The physics objects. -/
def physicsIn (j : Json) : Reply (List PhysicsObject) := do
  match j with
  | .null => pure []
  | _ => (← arrIn j).mapM fun o => do
    pure {
      mass := ← optIn o "mass" 0 f32In
      isStatic := ← optIn o "static" false boolIn
      asleep := ← optIn o "asleep" false boolIn
      position := ← optIn o "position" Vec.zero (vecIn 3 "position")
      angles := ← optIn o "angles" Vec.zero (vecIn 3 "angles")
      missing := ← missingIn o }

/-- The interfaces the factories hand out, by name. -/
def serveIn (j : Json) : Reply (List Interface) := do
  (← arrIn j).mapM fun n => do
    match Interface.ofName? (← strIn n) with
    | some i => pure i
    | none => refuse "unknown interface name"

/-- The stand-in engine a description gives. -/
def worldIn (fakes : Json) : Reply World := do
  let ec := partIn fakes "engine_client"
  let worldPart := partIn fakes "world"
  let registry ← registryIn worldPart
  let models ← modelsIn (partIn fakes "model_info")
  let entitiesJ ← optIn fakes "entities" [] arrIn
  let entities ← entitiesJ.zipIdx.mapM fun (e, i) =>
    entityIn registry.classes.length models.length i e
  let cvarPart := partIn fakes "cvar"
  let matPart := partIn fakes "material_system"
  let panelPart := partIn fakes "panel"
  let serverPart := partIn fakes "engine_server"
  let pimPart := partIn fakes "player_info_manager"
  let listPart := partIn fakes "entity_list"
  let missing : List (Interface × List Nat) :=
    [(.engineClient, ← missingIn ec), (.clientDll, ← missingIn worldPart),
      (.clientEntityList, ← missingIn listPart), (.modelInfo, ← missingIn (partIn fakes "model_info")),
      (.cvar, ← missingIn cvarPart), (.materialSystem, ← missingIn matPart),
      (.panel, ← missingIn panelPart), (.engineServer, ← missingIn serverPart),
      (.playerInfoManager, ← missingIn pimPart)]
  pure {
    engineClient := ← engineClientIn ec
    classes := registry
    nullClasses := ← optIn worldPart "null_classes" false boolIn
    entities := entities
    entityList := ← entityListIn entities.length listPart
    models := models
    conVars := ← conVarTableIn cvarPart
    materials := ← materialsIn matPart
    panels := ← panelsIn panelPart
    edicts := ← optIn serverPart "edicts" [] i32List
    globalVars := ← pimVarsIn pimPart
    physics := ← physicsIn (fakes.get? "physics_objects" |>.getD .null)
    serve := ← optIn fakes "serve" Interface.all serveIn
    missing := missing
    commands := []
    materialCalls := []
    boneCalls := []
    factoryCalls := [] }

end EngineSdk.Api
