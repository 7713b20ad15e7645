import EngineSdk.Api.EngineWrappers

/-!
# Steps on entities and network variables

The entity list, the entity wrappers and the property lookups through the engine.  An entity
step names its entity by index or by entity-list slot; a null entity is answered `null entity`.
A wrapper field `f` has the steps `f`, `try_f`, `f_offset` and, unless it is read-only, `set_f`,
which answers the value read back.
-/

namespace EngineSdk.Api

open StandIn Entity

/-- An `el` step: the entity list. -/
def entityListOn (step : Json) : StepM Json := do
  match ← argOf step "fn" strIn with
  | "get" => pure (optPtrJson (← clientEntity (← argOf step "index" (i32In "index"))))
  | "from_handle" => pure (optPtrJson (← entityOfHandle ⟨← argOf step "raw" u32In⟩))
  | "networkable" => pure (optPtrJson (← clientNetworkable (← argOf step "index" (i32In "index"))))
  | "count" =>
    pure (Json.int (← numberOfEntities (← optArg step "include_non_networkable" false boolIn)))
  | "highest" => pure (Json.int (← highestIndex))
  | "max" => pure (Json.int (← maxEntities))
  | "iter" => pure (.arr ((← entries).map fun (i, p) => .arr [Json.int i, ptrJson p]))
  | "handle_get_ptr" => pure (optPtrJson (← entityOfHandle ⟨← argOf step "raw" u32In⟩))
  | _ => refuseStep "unknown el fn"

/-- The entity a step names: by `entity` index or by entity-list `slot`. -/
def entityArg (step : Json) : StepM (Option Ptr) := do
  match step.get? "entity" with
  | some .null => pure none
  | some j =>
    let e ← ask (natIn j)
    if e < (← get).world.entities.length then pure (some (.entity e 0))
    else refuseStep "entity index out of range"
  | none =>
    match step.get? "slot" with
    | some j => clientEntity (← ask (i32In "slot" j))
    | none => pure none

/-- The wrapper a step names; the base entity by default. -/
def wrapperArg (step : Json) : StepM Wrapper := do
  match ← optArg step "as" "base" strIn with
  | "base" => pure .base
  | "player" => pure .player
  | "object" => pure .object
  | "sentry" => pure .sentry
  | "teleporter" => pure .teleporter
  | _ => refuseStep "unknown entity wrapper"

/-- A field value as answered. -/
def fieldValueJson (w : Wrapper) : FieldValue → Json
  | .int v => Json.int v
  | .float x => f32Out x
  | .vec v => vecOut v
  | .flag b => .bool b
  | .handle h =>
    if w = .base then
      .obj [("raw", Json.int h.raw.toNat), ("debug", .str (h.describe "BaseHandle")),
        ("display", .str h.display)]
    else .obj [("raw", Json.int h.raw.toNat), ("debug", .str (h.describe "Handle"))]

/-- A field value as the plain getter answers it: a handle is its raw word. -/
def plainValueJson (w : Wrapper) : FieldValue → Json
  | .handle h => Json.int h.raw.toNat
  | v => fieldValueJson w v

/-- The value a setter step writes, read as the field's type. -/
def setterValueIn (ty : FieldType) (j : Json) : Reply FieldValue := do
  match ty with
  | .i32 => pure (.int (← i32In "value" j))
  | .u8 =>
    let n ← natIn j
    if n < 256 then pure (.int n) else refuse "value out of u8 range"
  | .f32 => pure (.float (← f32In j))
  | .vec => pure (.vec (← vecIn 3 "value" j))
  | .flag => pure (.flag (← boolIn j))
  | .handle => pure (.handle ⟨← u32In j⟩)

/-- A field step, when `fn` names one: the getter, `try_`, `set_` or `_offset`. -/
def fieldStep? (w : Wrapper) (p : Ptr) (fn : String) (step : Json) : Option (StepM Json) :=
  let strip (pre : String) : Option String :=
    if fn.startsWith pre then some (fn.drop pre.length).toString else none
  let stripEnd (suf : String) : Option String :=
    if fn.endsWith suf then some (fn.dropEnd suf.length).toString else none
  match w.field? fn with
  | some f => some (do pure (plainValueJson w (← f.get p)))
  | none =>
  match (strip "try_").bind w.field? with
  | some f => some (do pure (optJson (fieldValueJson w) (← f.tryGet p)))
  | none =>
  match (strip "set_").bind w.field? with
  | some f =>
    if f.readonly then none
    else some (do
      f.set p (← argOf step "value" (setterValueIn f.ty))
      pure (optJson (fieldValueJson w) (← f.tryGet p)))
  | none =>
  match (stripEnd "_offset").bind w.field? with
  | some f => some (do
      match ← f.offset with
      | .ok o => pure (Json.int o)
      | .error e => pure (errorJson e.kind e.message))
  | none => none

/-- A bone cache result as answered. -/
def boneCacheJson : Option Ptr → Json
  | none => .null
  | some (.entity e off) => .obj [("entity", Json.int e), ("offset", Json.int off)]
  | some (.address v) => .obj [("value", Json.int v)]
  | some p => ptrJson p

/-- The methods of every entity. -/
def baseEntityStep (p : Ptr) (fn : String) (step : Json) : StepM Json := do
  match fn with
  | "tf_team" => pure (optJson (fun (t : Team) => .str (Coded.label t)) (← tfTeam p))
  | "abs_origin" => pure (optJson vecOut (← absOrigin p))
  | "abs_angles" => pure (optJson vecOut (← absAngles p))
  | "class_name" => pure (optJson .str (← className p))
  | "class_id" => pure (optJson Json.int (← classId p))
  | "client_class" => pure (optJson (fun (c : Nat) => Json.int c) (← clientClass p))
  | "is_dormant" => pure (.bool (← isDormant p))
  | "index" => pure (Json.int (← index p))
  | "model" => pure (optPtrJson (← model p))
  | "as_ptr" | "cast_player" => pure (ptrJson p)
  | "table_name" => pure (.arr [.str "DT_BaseEntity", .str "DT_BaseEntity", .bool true, .bool true])
  | "consts" =>
    pure (.arr [.str "m_iTeamNum", .str "DT_BaseEntity", .str "m_hOwnerEntity", .str "DT_BaseEntity",
      Json.int renderableOffset, Json.int networkableOffset])
  | "setup_bones" =>
    let maxBones ← argOf step "max" natIn
    let mask ← argOf step "mask" (i32In "mask")
    let time ← argOf step "time" f32In
    let (ok, bones) ← setupBones p maxBones mask time
    pure (.obj [("bones", .arr (bones.map fun m => .arr (m.rows.toList.map vecOut))), ("ok", .bool ok)])
  | "bone_cache" => pure (boneCacheJson (← boneCache p))
  | _ => refuseStep "unknown entity fn"

/-- Bit `cond` of a 32-bit word, read as its two's complement bits. -/
def condSet (bits : Int) (cond : Nat) : Bool :=
  (bits % (Nat.pow 2 32 : Int)).toNat / Nat.pow 2 cond % 2 == 1

/-- The methods of a player. -/
def playerStep (p : Ptr) (fn : String) (step : Json) : StepM Json := do
  match fn with
  | "entity" => pure (ptrJson p)
  | "is_alive" => pure (.bool (← isAlive p))
  | "life" =>
    pure (optJson (fun (s : LifeState) => .str (Coded.label s))
      ((← tryInt .player "life_state" p).bind Coded.decode?))
  | "tf_class" =>
    pure (optJson (fun (c : PlayerClass) => .str (Coded.label c))
      ((← tryInt .player "player_class" p).bind Coded.decode?))
  | "in_cond" =>
    let cond ← argOf step "cond" natIn
    if cond ≥ 32 then return .bool false
    pure (.bool (match ← tryInt .player "player_cond" p with
      | some bits => condSet bits cond
      | none => false))
  | "is_on_ground" =>
    pure (.bool (match ← tryInt .player "flags" p with
      | some f => f % 2 == 1
      | none => false))
  | "eye_position" =>
    match ← (Wrapper.player.fieldNamed "view_offset").tryGet p with
    | none => pure .null
    | some v => pure (optJson (fun o => vecOut (o.add v.asVec)) (← absOrigin p))
  | "table_name" =>
    pure (.arr [.str "DT_TFPlayer", .str "DT_TFPlayer", .str "DT_BasePlayer", .str "m_vecViewOffset[0]"])
  | _ => refuseStep "unknown entity fn"

/-- The methods of a building. -/
def objectStep (p : Ptr) (fn : String) : StepM Json := do
  match fn with
  | "kind" => pure (optJson (fun (k : BuildingKind) => .str (Coded.label k)) (← objectKind p))
  | "owner" =>
    match ← (Wrapper.object.fieldNamed "builder").tryGet p with
    | none => pure .null
    | some h => pure (optPtrJson (← entityOfHandle h.asHandle))
  | "as_sentrygun" => pure (if (← objectKind p) == some .sentrygun then ptrJson p else .null)
  | "as_teleporter" => pure (if (← objectKind p) == some .teleporter then ptrJson p else .null)
  | "table_name" => pure (.arr [.str "DT_BaseObject"])
  | _ => refuseStep "unknown entity fn"

/-- The methods of a sentry gun. -/
def sentryStep (p : Ptr) (fn : String) : StepM Json := do
  match fn with
  | "sentry_state" =>
    pure (optJson (fun (s : SentryState) => .str (Coded.label s))
      ((← tryInt .sentry "state" p).bind Coded.decode?))
  | "base" => pure (ptrJson p)
  | "table_name" => pure (.arr [.str "DT_ObjectSentrygun"])
  | _ => refuseStep "unknown entity fn"

/-- The methods of a teleporter. -/
def teleporterStep (p : Ptr) (fn : String) : StepM Json := do
  let state : StepM (Option TeleporterState) := do
    pure ((← tryInt .teleporter "state" p).bind Coded.decode?)
  match fn with
  | "teleporter_state" => pure (optJson (fun (s : TeleporterState) => .str (Coded.label s)) (← state))
  | "is_ready" => pure (.bool ((← state) == some .ready))
  | "base" => pure (ptrJson p)
  | "table_name" => pure (.arr [.str "DT_ObjectTeleporter"])
  | _ => refuseStep "unknown entity fn"

/-- An `ent` step: a method of an entity wrapper. -/
def entityStep (step : Json) : StepM Json := do
  let p? ← entityArg step
  let w ← wrapperArg step
  let fn ← argOf step "fn" strIn
  match p? with
  | none => pure (.str "null entity")
  | some p =>
    match fieldStep? w p fn step with
    | some s => s
    | none =>
      match w with
      | .base => baseEntityStep p fn step
      | .player => playerStep p fn step
      | .object => objectStep p fn
      | .sentry => sentryStep p fn
      | .teleporter => teleporterStep p fn

/-- A `handle_get` step: the entity a handle names, wrapped. -/
def handleGetStep (step : Json) : StepM Json := do
  pure (optPtrJson (← entityOfHandle ⟨← argOf step "raw" u32In⟩))

/-- A `class_name` step: the lossy network name of a class. -/
def classNameStep (step : Json) : StepM Json := do
  match step.get? "class" with
  | none | some .null => pure .null
  | some j =>
    let c ← ask (natIn j)
    match (← get).world.classes.classes[c]? with
    | some k => pure (optJson (fun bs => .str (Utf8.decodeLossy bs)) k.name)
    | none => refuseStep "class index out of range"

/-- An `rp` step: property lookups through the engine. -/
def recvpropStep (step : Json) : StepM Json := do
  let str (k : String) : StepM String := argOf step k strIn
  match ← argOf step "fn" strIn with
  | "get_offset" => pure (lookupJson (← Run.propOffset (← str "table") (← str "prop")))
  | "dump_table" =>
    match ← Run.dumpTable (← str "table") with
    | .ok ls => pure (.arr (ls.map .str))
    | .error e => pure (errorJson e.kind e.message)
  | "prefetch" => pure (.arr ((← Run.prefetch (← argOf step "pairs" pairsIn)).map lookupJson))
  | "prefetch_netvars" => pure (Json.int (← Run.prefetchNetvars))
  | "client_class_head" =>
    match ← Run.classHead with
    | .ok r => pure (optJson (fun (_ : Netvar.ClientClass) => Json.int 0) r.classes.head?)
    | .error e => pure (errorJson e.kind e.message)
  | "cache_size" => pure (Json.int (← get).cache.size)
  | "clear_cache" =>
    modify fun s => { s with cache := Netvar.OffsetCache.empty }
    pure .null
  | "field" =>
    let head ← Run.classHead
    let field := Netvar.Field.new (← str "table") (← str "prop")
    let found : Run (Option Int × Netvar.Field) := Run.onCache (field.tryOffset head)
    let (o, f) ← found
    pure (.obj [("try_offset", optJson Json.int o), ("resolved", .bool f.isResolved)])
  | _ => refuseStep "unknown rp fn"

end EngineSdk.Api
