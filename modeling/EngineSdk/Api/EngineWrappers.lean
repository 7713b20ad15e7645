import EngineSdk.Api.EngineState

/-!
# Steps on the engine's objects

Each wrapper step reaches its object through the engine's interfaces, or takes the stand-in
object itself with `raw: true`, and answers `no ...` when there is no object.  The steps that ask
whether the wrapper can be had at all (`get`, `from_null`) are answered first.
-/

namespace EngineSdk.Api

open StandIn Client

/-- The engine's object for an interface, or the stand-in object itself when `raw`. -/
def objectFor (i : Interface) (raw : Bool) : StepM (Option Ptr) := do
  if raw then pure (some (.iface i)) else Run.service? i

/-- A player's information as answered. -/
def playerInfoJson (r : PlayerRecord) : Json :=
  let name := Utf8.decodeLossy r.name
  let guid := Utf8.decodeLossy r.guid
  let fake := r.fakePlayer || r.hltv || r.replay
  .obj [("name", .str name), ("guid", .str guid), ("user_id", Json.int r.userId),
    ("friends_id", Json.int r.friendsId), ("is_fake", .bool fake),
    ("debug", .str ("PlayerInfo \x7b name: " ++ Text.debugQuote name ++ ", user_id: " ++
      toString r.userId ++ ", guid: " ++ Text.debugQuote guid ++ ", friends_id: " ++
      toString r.friendsId ++ ", fake_player: " ++ toString r.fakePlayer ++ " \x7d"))]

/-- An `ec` step: the engine client. -/
def engineClientStep (step : Json) : StepM Json := do
  let fn ← argOf step "fn" strIn
  match fn with
  | "get" => return .bool (← Run.service? .engineClient).isSome
  | "from_null" => return .bool false
  | _ => pure ()
  match ← objectFor .engineClient (← optArg step "raw" false boolIn) with
  | none => pure (.str "no engine client")
  | some ec =>
    match fn with
    | "screen_size" =>
      let (w, h) ← Engine.screenSize ec
      pure (.arr [Json.int w, Json.int h])
    | "player_info" =>
      pure (optJson playerInfoJson (← Engine.playerInfo ec (← argOf step "index" (i32In "index"))))
    | "player_for_user_id" =>
      pure (Json.int (← Engine.playerForUserId ec (← argOf step "user_id" (i32In "user_id"))))
    | "local_player" => pure (Json.int (← Engine.localPlayer ec))
    | "view_angles" => pure (vecOut (← Engine.viewAngles ec))
    | "set_view_angles" =>
      Engine.setViewAngles ec (← argOf step "angles" (vecIn 3 "angles"))
      pure (vecOut (← Engine.viewAngles ec))
    | "max_clients" => pure (Json.int (← Engine.maxClients ec))
    | "is_in_game" => pure (.bool (← Engine.isInGame ec))
    | "is_connected" => pure (.bool (← Engine.isConnected ec))
    | "w2s" => pure (optJson (fun m => .arr (m.rows.toList.map vecOut)) (← Engine.worldToScreen ec))
    | "level_name" => pure (.str (← Engine.levelName ec))
    | "client_cmd" => pure (.bool (← Engine.clientCmd ec (← argOf step "cmd" strIn)))
    | "commands" => pure (.arr ((← get).world.commands.map .str))
    | "net_channel" => pure (.bool (← Engine.netChannel? ec).isSome)
    | _ => refuseStep "unknown ec fn"

/-- The network channel a step works on. -/
def channelFor (raw : Bool) : StepM (Option Ptr) := do
  if raw then
    pure (if (← get).world.engineClient.netChannel.isSome then some .netChannel else none)
  else
    match ← Run.service? .engineClient with
    | some ec => Engine.netChannel? ec
    | none => pure none

/-- A pair of directions as answered. -/
def flowsJson {α : Type} (f : α → Json) (p : Flows α) : Json := .arr [f p.1, f p.2]

/-- The text of a binary32 number as `Debug` writes it. -/
def debugF32 (x : Float32) : String := Decimal.debugNotation.render32 x

/-- The statistics of a channel as `Debug` writes them. -/
def statsDebug (s : Channel.Stats) : String :=
  let rate (k : FlowStat) : String :=
    let (a, b) := (s.rates.lookup k).getD (0, 0)
    "[" ++ debugF32 a ++ ", " ++ debugF32 b ++ "]"
  let count (k : FlowStat) : String :=
    let (a, b) := (s.counts.lookup k).getD (0, 0)
    "[" ++ toString a ++ ", " ++ toString b ++ "]"
  "NetChannelStats \x7b latency: " ++ rate .latency ++ ", avg_latency: " ++ rate .avgLatency ++
    ", avg_loss: " ++ rate .avgLoss ++ ", avg_choke: " ++ rate .avgChoke ++ ", avg_data: " ++
    rate .avgData ++ ", avg_packets: " ++ rate .avgPackets ++ ", total_data: " ++
    count .totalData ++ ", sequence_nr: " ++ count .sequenceNr ++ " \x7d"

/-- Statistics with every value zero. -/
def zeroStats : Channel.Stats :=
  ⟨Channel.rateStats.map fun k => (k, (0, 0)), [(.totalData, (0, 0)), (.sequenceNr, (0, 0))]⟩

/-- The statistics of a channel as answered. -/
def statsJson (s : Channel.Stats) : Json :=
  .obj (s.rates.map (fun (k, p) => (flowKey k, flowsJson f32Out p)) ++
    s.counts.map (fun (k, p) => (flowKey k, flowsJson Json.int p)) ++
    [("round_trip", f32Out s.roundTrip), ("stable", .bool s.stable),
      ("debug_default", .str (statsDebug zeroStats))])

/-- The statistic a step name asks for. -/
def flowStatNamed? (fn : String) : Option FlowStat :=
  [FlowStat.latency, .avgLatency, .avgLoss, .avgChoke, .avgData, .avgPackets, .totalData,
    .sequenceNr].find? (flowKey · == fn)

/-- An `nc` step: the network channel. -/
def netChannelStep (step : Json) : StepM Json := do
  let fn ← argOf step "fn" strIn
  match ← channelFor (← optArg step "raw" false boolIn) with
  | none => pure (.str "no net channel")
  | some c =>
    match flowStatNamed? fn with
    | some k =>
      let flow ← argOf step "flow" intIn
      if flow ≠ 0 ∧ flow ≠ 1 then refuseStep "flow is 0 or 1"
      else if k = .totalData ∨ k = .sequenceNr then pure (Json.int (← Channel.count c k flow))
      else pure (f32Out (← Channel.rate c k flow))
    | none =>
    match fn with
    | "name" => pure (.str (← Channel.name c))
    | "address" => pure (.str (← Channel.address c))
    | "time" => pure (f32Out (← Channel.time c))
    | "time_connected" => pure (f32Out (← Channel.timeConnected c))
    | "is_loopback" => pure (.bool (← Channel.isLoopback c))
    | "is_timing_out" => pure (.bool (← Channel.isTimingOut c))
    | "stats" => pure (statsJson (← Channel.stats c))
    | "debug" =>
      let n ← Channel.name c
      let a ← Channel.address c
      pure (.str ("NetChannel \x7b name: " ++ Text.debugQuote n ++ ", address: " ++
        Text.debugQuote a ++ " \x7d"))
    | "same_object" => pure (.bool true)
    | _ => refuseStep "unknown nc fn"

/-- The material a step names. -/
def materialArg (step : Json) : StepM (Option Ptr) := do
  match step.get? "material" with
  | none | some .null => pure none
  | some j =>
    let i ← ask (natIn j)
    if i < (← get).world.materials.length then pure (some (.material i))
    else refuseStep "material index out of range"

/-- The flag-set answers of a word of material flags. -/
def flagsDebugJson (bits : Nat) : Json :=
  .obj [("debug", .str ("MaterialVarFlags(" ++ MaterialFlags.render bits ++ ")")),
    ("truncate", Json.int (MaterialFlags.truncate bits)),
    ("known", .bool (MaterialFlags.allKnown bits)),
    ("names", .arr ((MaterialFlags.namesOf bits).map .str))]

/-- A `mat` step: the material system and materials. -/
def materialStep (step : Json) : StepM Json := do
  let fn ← argOf step "fn" strIn
  match fn with
  | "system_get" => return .bool (← Run.service? .materialSystem).isSome
  | "system_from_null" => return .bool false
  | "flags_debug" => return flagsDebugJson (← argOf step "bits" u32In).toNat
  | "log" => return .arr ((← get).world.materialCalls.map materialCallJson)
  | "find" =>
    match ← objectFor .materialSystem (← optArg step "raw" false boolIn) with
    | none => return .str "no material system"
    | some ms =>
      return optPtrJson (← Materials.find ms (← argOf step "name" strIn) (← argOf step "group" strIn))
  | _ => pure ()
  match ← materialArg step with
  | none => pure (.str "no material")
  | some m =>
    match fn with
    | "name" => pure (.str (← Materials.name m))
    | "texture_group" => pure (.str (← Materials.textureGroup m))
    | "debug" =>
      let n ← Materials.name m
      let g ← Materials.textureGroup m
      pure (.str ("Material \x7b name: " ++ Text.debugQuote n ++ ", group: " ++ Text.debugQuote g ++ " \x7d"))
    | "alpha_modulate" =>
      Materials.alphaModulate m (← argOf step "alpha" f32In)
      pure .null
    | "color_modulate" =>
      let c ← argOf step "color" (vecIn 3 "color")
      Materials.colorModulate m c.x c.y c.z
      pure .null
    | "set_var_flag" =>
      Materials.setVarFlag m (← argOf step "flags" u32In).toNat (← argOf step "on" boolIn)
      pure .null
    | "var_flag" => pure (.bool (← Materials.varFlag m (← argOf step "flag" u32In).toNat))
    | "state" =>
      match m with
      | .material i =>
        match (← get).world.materials[i]? with
        | some x => pure (.obj [("flags", Json.int x.flags), ("alpha", f32Out x.alpha),
            ("color", vecOut x.color)])
        | none => pure .null
      | _ => pure .null
    | _ => refuseStep "unknown mat fn"

/-- The model a step names: an index, null, or an unknown object. -/
def modelArg (step : Json) : StepM Ptr := do
  match step.get? "model" with
  | none | some .null => pure .null
  | some (.str "foreign") => pure .foreign
  | some j =>
    let i ← ask (natIn j)
    if i < (← get).world.models.length then pure (.model i)
    else refuseStep "model index out of range"

/-- An `mi` step: the model information object. -/
def modelInfoStep (step : Json) : StepM Json := do
  let fn ← argOf step "fn" strIn
  match fn with
  | "get" => return .bool (← Run.service? .modelInfo).isSome
  | "from_null" => return .bool false
  | _ => pure ()
  match ← objectFor .modelInfo (← optArg step "raw" false boolIn) with
  | none => pure (.str "no model info")
  | some mi =>
    match fn with
    | "model_index" => pure (Json.int (← Models.modelIndex mi (← argOf step "name" strIn)))
    | "model_name" => pure (optJson .str (← Models.modelName mi (← modelArg step)))
    | "studio" =>
      let model ← modelArg step
      pure (match ← Models.studio mi model with
        | some _ => ptrJson model
        | none => .null)
    | "hitbox_set" =>
      let model ← modelArg step
      let set ← argOf step "set" natIn
      pure (optJson hitboxSetJson ((← Models.studio mi model).bind fun sm =>
        (StudioHdr.hitboxSet sm.layOut 0 set).map (HitboxSet.read sm.layOut)))
    | "hitbox" =>
      let model ← modelArg step
      let set ← argOf step "set" natIn
      let index ← argOf step "index" natIn
      pure (optJson hitboxJson ((← Models.studio mi model).bind fun sm =>
        (StudioHdr.hitbox sm.layOut 0 set index).map (Hitbox.read sm.layOut)))
    | "bone_name" =>
      let model ← modelArg step
      let bone ← argOf step "bone" natIn
      pure (optJson .str ((← Models.studio mi model).bind fun sm =>
        (StudioHdr.bone sm.layOut 0 bone).bind fun a => (Bone.read sm.layOut a).name.text?))
    | _ => refuseStep "unknown mi fn"

/-- A `panel` step. -/
def panelStep (step : Json) : StepM Json := do
  let fn ← argOf step "fn" strIn
  match fn with
  | "get" => return .bool (← Run.service? .panel).isSome
  | "from_null" => return .bool false
  | _ => pure ()
  match ← objectFor .panel (← optArg step "raw" false boolIn) with
  | none => pure (.str "no panel")
  | some p =>
    match fn with
    | "name" => pure (optJson .str (← panelName p (← argOf step "panel" natIn)))
    | _ => refuseStep "unknown panel fn"

/-- A `phys` step: a physics object. -/
def physicsStep (step : Json) : StepM Json := do
  let fn ← argOf step "fn" strIn
  let obj ← match step.get? "object" with
    | none | some .null => pure none
    | some j => do
      let i ← ask (natIn j)
      if i < (← get).world.physics.length then pure (some (Ptr.physics i))
      else refuseStep "physics object out of range"
  match obj with
  | none => pure (.str "null physics object")
  | some o =>
    match fn with
    | "mass" => pure (f32Out (← Physics.mass o))
    | "is_static" => pure (.bool (← Physics.isStatic o))
    | "is_asleep" => pure (.bool (← Physics.isAsleep o))
    | "position" => pure (optJson (fun (p, a) => .arr [vecOut p, vecOut a]) (← Physics.position o))
    | _ => refuseStep "unknown phys fn"

/-- A `cv` step: a console variable found through the engine, and a call on it. -/
def conVarStepOn (step : Json) : StepM Json := do
  let name ← argOf step "name" strIn
  let found ← match ← Run.service? .cvar with
    | some c => findVar c name
    | none => pure none
  match found with
  | none => pure .null
  | some i =>
    match step.get? "fn" with
    | none => pure (Json.int i)
    | some fnJ =>
      let fn ← ask (strIn fnJ)
      let sString ← Run.vfuncIndex Setter.string.key Setter.string.defaultSlot
      let sFloat ← Run.vfuncIndex Setter.float.key Setter.float.defaultSlot
      let sInt ← Run.vfuncIndex Setter.int.key Setter.int.defaultSlot
      let slot : Setter → Nat
        | .string => sString
        | .float => sFloat
        | .int => sInt
      let t := (← get).world.conVars
      let (v, calls, t') ← ask (conVarCall t i slot fn step)
      modify fun s =>
        let w := { s.world with conVars := t' }
        { s with world := w, conVarCalls := s.conVarCalls ++ calls }
      pure v

end EngineSdk.Api
