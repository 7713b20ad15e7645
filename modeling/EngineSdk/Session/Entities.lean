import EngineSdk.Session.Client
import EngineSdk.Entity.Handle
import EngineSdk.Game.Codes

/-!
# Entities

The client entity list, reached through the engine, and the wrappers over an entity's memory:
`BaseEntity`, `TFPlayer`, `BaseObject`, `Sentrygun` and `Teleporter`.

A wrapper reads its networked fields at their resolved offsets from the entity pointer.  Each
field resolves once into its own slot (`Run.fieldOffset`).  For a field there are four
accessors: its offset or the lookup error, a getter that stops with
`<field>: <lookup error>` when the field cannot be resolved, a getter that answers nothing then,
and, unless the field is read-only, a setter that writes nothing then.  A flag field is the low
bit of its byte; a handle field is its 32-bit word.

The other methods of an entity call its three method tables, at byte offsets `0`, `8` and `16`
(the last two taken from gamedata when it names them).
-/

namespace EngineSdk.Entity

open StandIn Run

/-- The entity list, when the engine has one. -/
def listObject : Run (Option Ptr) := service? .clientEntityList

/-- A non-null pointer result. -/
def nonNull (o : Option Outcome) : Option Ptr :=
  o.bind fun o => if o.result.asPtr.isNull then none else some o.result.asPtr

/-- The entity in a slot of the list. -/
def clientEntity (index : Int) : Run (Option Ptr) := do
  if index < 0 then return none
  match ← listObject with
  | none => pure none
  | some l => nonNull <$> call l "IClientEntityList::GetClientEntity" 3 [.int index]

/-- The entity a handle names. -/
def entityOfHandle (h : EntityHandle) : Run (Option Ptr) := do
  if !h.isValid then return none
  match ← listObject with
  | none => pure none
  | some l =>
    nonNull <$> call l "IClientEntityList::GetClientEntityFromHandle" 4 [.int h.raw.toNat]

/-- The networkable part of the entity in a slot. -/
def clientNetworkable (index : Int) : Run (Option Ptr) := do
  match ← listObject with
  | none => pure none
  | some l => nonNull <$> call l "IClientEntityList::GetClientNetworkable" 0 [.int index]

/-- The number of entities; zero when unknown. -/
def numberOfEntities (includeNonNetworkable : Bool) : Run Int := do
  match ← listObject with
  | none => pure 0
  | some l =>
    Client.intCall l "IClientEntityList::NumberOfEntities" 5 0
      [.int (if includeNonNetworkable then 1 else 0)]

/-- The highest slot index in use; `-1` when unknown. -/
def highestIndex : Run Int := do
  match ← listObject with
  | none => pure (-1)
  | some l => Client.intCall l "IClientEntityList::GetHighestEntityIndex" 6 (-1) []

/-- The number of slots; zero when unknown. -/
def maxEntities : Run Int := do
  match ← listObject with
  | none => pure 0
  | some l => Client.intCall l "IClientEntityList::GetMaxEntities" 8 0 []

/-- The occupied slots from `0` to the highest index, with their entities. -/
def entries : Run (List (Int × Ptr)) := do
  if (← listObject).isNone then return []
  let highest ← highestIndex
  let found ← (List.range (highest + 1).toNat).mapM fun (i : Nat) => do
    pure ((← clientEntity i).map fun p => ((i : Int), p))
  pure (found.filterMap id)

/-- What a networked field holds. -/
inductive FieldType where
  | i32
  | u8
  | f32
  | vec
  | flag
  | handle
deriving DecidableEq, Repr

/-- A value read from a networked field. -/
inductive FieldValue where
  | int (v : Int)
  | float (v : Float32)
  | vec (v : Vec 3)
  | flag (b : Bool)
  | handle (h : EntityHandle)

/-- A networked field of a wrapper. -/
structure NetField where
  /-- The wrapper that declares it. -/
  wrapper : String
  /-- Its name in the wrapper, which starts with an underscore. -/
  field : String
  prop : String
  table : String
  ty : FieldType
  readonly : Bool

/-- The name of a field's offset slot. -/
def NetField.cell (f : NetField) : String := f.wrapper ++ "." ++ f.field

/-- Three binary32 numbers in a row. -/
def vecCell : Cell (Vec 3) :=
  ⟨12, fun bs => Vec.mk3 (Cell.f32.load bs 0) (Cell.f32.load bs 4) (Cell.f32.load bs 8),
    fun v => v.toList.flatMap Cell.f32.encode⟩

/-- The value of type `ty` at a byte offset of a block. -/
def loadValue (ty : FieldType) (block : List UInt8) (offset : Int) : FieldValue :=
  match ty with
  | .i32 => .int (Netvar.loadAt Cell.i32 block offset)
  | .u8 => .int (Int.ofNat (Netvar.loadAt Cell.u8 block offset))
  | .f32 => .float (Netvar.loadAt Cell.f32 block offset)
  | .vec => .vec (Netvar.loadAt vecCell block offset)
  | .flag => .flag (Netvar.loadAt Cell.u8 block offset % 2 == 1)
  | .handle => .handle ⟨(Netvar.loadAt Cell.u32 block offset).toUInt32⟩

/-- An integer value, or zero. -/
def FieldValue.asInt : FieldValue → Int
  | .int v => v
  | .handle h => h.raw.toNat
  | .flag b => if b then 1 else 0
  | _ => 0

/-- A number value, or zero. -/
def FieldValue.asFloat : FieldValue → Float32
  | .float v => v
  | _ => 0

/-- A vector value, or zero. -/
def FieldValue.asVec : FieldValue → Vec 3
  | .vec v => v
  | _ => Vec.zero

/-- A handle value, or the invalid handle. -/
def FieldValue.asHandle : FieldValue → EntityHandle
  | .handle h => h
  | _ => EntityHandle.invalid

/-- A flag value: whether it is not zero. -/
def FieldValue.asFlag : FieldValue → Bool
  | .flag b => b
  | v => v.asInt != 0

/-- A block with a value of type `ty` written at a byte offset. -/
def storeValue (ty : FieldType) (block : List UInt8) (offset : Int) (v : FieldValue) : List UInt8 :=
  match ty with
  | .i32 => Netvar.storeAt Cell.i32 block offset v.asInt
  | .u8 => Netvar.storeAt Cell.u8 block offset (v.asInt % 256).toNat
  | .f32 => Netvar.storeAt Cell.f32 block offset v.asFloat
  | .vec => Netvar.storeAt vecCell block offset v.asVec
  | .flag => Netvar.storeAt Cell.u8 block offset (if v.asFlag then 1 else 0 : Nat)
  | .handle => Netvar.storeAt Cell.u32 block offset v.asHandle.raw.toNat

/-- The memory and base offset of an entity pointer. -/
def memoryAt (p : Ptr) : Run (Option (Nat × List UInt8 × Int)) := do
  match p with
  | .entity e base => pure (((← get).world.entities[e]?).map fun ent => (e, ent.memory, base))
  | _ => pure none

/-- Reads a value at a byte offset from an entity pointer. -/
def readAt (ty : FieldType) (p : Ptr) (offset : Int) : Run FieldValue := do
  match ← memoryAt p with
  | some (_, mem, base) => pure (loadValue ty mem (base + offset))
  | none => pure (loadValue ty [] 0)

/-- Writes a value of type `ty` at a byte offset from an entity pointer. -/
def writeAt (ty : FieldType) (p : Ptr) (offset : Int) (v : FieldValue) : Run Unit := do
  match ← memoryAt p with
  | some (e, mem, base) =>
    let mem' := storeValue ty mem (base + offset) v
    onWorld (modify fun w => { w with entities := w.entities.modify e fun ent => { ent with memory := mem' } })
  | none => pure ()

namespace NetField

/-- The field's offset, or why it cannot be resolved. -/
def offset (f : NetField) : Run (Except Netvar.RecvPropError Int) :=
  fieldOffset f.cell f.table f.prop

/-- The field's value; stops when the field cannot be resolved. -/
def get (f : NetField) (p : Ptr) : Run FieldValue := do
  match ← f.offset with
  | .ok o => readAt f.ty p o
  | .error e => throw (.abort (f.field ++ ": " ++ e.message))

/-- The field's value, or nothing for a null entity or an unresolvable field. -/
def tryGet (f : NetField) (p : Ptr) : Run (Option FieldValue) := do
  if p.isNull then return none
  match ← f.offset with
  | .ok o => some <$> readAt f.ty p o
  | .error _ => pure none

/-- Writes the field; nothing is written for a null entity or an unresolvable field. -/
def set (f : NetField) (p : Ptr) (v : FieldValue) : Run Unit := do
  if p.isNull then return
  match ← f.offset with
  | .ok o => writeAt f.ty p o v
  | .error _ => pure ()

end NetField

/-- An entity wrapper. -/
inductive Wrapper where
  | base
  | player
  | object
  | sentry
  | teleporter
deriving DecidableEq, Repr

/-- The name of a wrapper. -/
def Wrapper.name : Wrapper → String
  | .base => "BaseEntity"
  | .player => "TFPlayer"
  | .object => "BaseObject"
  | .sentry => "Sentrygun"
  | .teleporter => "Teleporter"

/-- The default table of a wrapper. -/
def Wrapper.table : Wrapper → String
  | .base => "DT_BaseEntity"
  | .player => "DT_TFPlayer"
  | .object => "DT_BaseObject"
  | .sentry => "DT_ObjectSentrygun"
  | .teleporter => "DT_ObjectTeleporter"

/-- The networked fields of a wrapper: name, property, table when not the default, type and
whether it is read-only. -/
def Wrapper.fieldSpecs : Wrapper → List (String × String × Option String × FieldType × Bool)
  | .base =>
    [("_team", "m_iTeamNum", none, .i32, false), ("_origin", "m_vecOrigin", none, .vec, false),
      ("_entity_flags", "m_fFlags", none, .i32, false),
      ("_model_index", "m_nModelIndex", none, .i32, false),
      ("_owner", "m_hOwnerEntity", none, .handle, true),
      ("_simulation_time", "m_flSimulationTime", none, .f32, true)]
  | .player =>
    [("_health", "m_iHealth", some "DT_BasePlayer", .i32, false),
      ("_life_state", "m_lifeState", some "DT_BasePlayer", .u8, false),
      ("_flags", "m_fFlags", some "DT_BasePlayer", .i32, true),
      ("_tick_base", "m_nTickBase", some "DT_BasePlayer", .i32, true),
      ("_view_offset", "m_vecViewOffset[0]", some "DT_BasePlayer", .vec, true),
      ("_player_class", "m_iClass", none, .i32, true),
      ("_player_cond", "m_nPlayerCond", none, .i32, false)]
  | .object =>
    [("_health", "m_iHealth", none, .i32, false), ("_max_health", "m_iMaxHealth", none, .i32, true),
      ("_upgrade_level", "m_iUpgradeLevel", none, .i32, true),
      ("_building", "m_bBuilding", none, .flag, true),
      ("_has_sapper", "m_bHasSapper", none, .flag, true),
      ("_carried", "m_bCarried", none, .flag, true),
      ("_object_type", "m_iObjectType", none, .i32, true),
      ("_builder", "m_hBuilder", none, .handle, true)]
  | .sentry =>
    [("_state", "m_iState", none, .i32, true), ("_ammo_shells", "m_iAmmoShells", none, .i32, true),
      ("_ammo_rockets", "m_iAmmoRockets", none, .i32, true),
      ("_upgrade_level", "m_iUpgradeLevel", some "DT_BaseObject", .i32, true)]
  | .teleporter =>
    [("_state", "m_iState", none, .i32, true),
      ("_recharge_time", "m_flRechargeTime", none, .f32, true),
      ("_times_used", "m_iTimesUsed", none, .i32, true),
      ("_upgrade_level", "m_iUpgradeLevel", some "DT_BaseObject", .i32, true)]

/-- The networked fields of a wrapper. -/
def Wrapper.fields (w : Wrapper) : List NetField :=
  w.fieldSpecs.map fun (field, prop, table, ty, ro) => ⟨w.name, field, prop, table.getD w.table, ty, ro⟩

/-- The field of a wrapper with an accessor name (the field name without its underscore). -/
def Wrapper.field? (w : Wrapper) (name : String) : Option NetField :=
  w.fields.find? (·.field == "_" ++ name)

/-- The field of a wrapper with an accessor name, which must exist. -/
def Wrapper.fieldNamed (w : Wrapper) (name : String) : NetField :=
  (w.field? name).getD ⟨w.name, "_" ++ name, "", w.table, .i32, true⟩

/-- An integer field read with `tryGet`. -/
def tryInt (w : Wrapper) (name : String) (p : Ptr) : Run (Option Int) := do
  pure ((← (w.fieldNamed name).tryGet p).map FieldValue.asInt)

/-- The byte offset of an entity's renderable part. -/
def renderablePart (p : Ptr) : Run Ptr := do
  let off ← vfuncIndex "C_BaseEntity::RenderableOffset" renderableOffset
  pure (match p with
    | .entity e base => .entity e (base + off)
    | q => q)

/-- The byte offset of an entity's networkable part. -/
def networkablePart (p : Ptr) : Run Ptr := do
  let off ← vfuncIndex "C_BaseEntity::NetworkableOffset" networkableOffset
  pure (match p with
    | .entity e base => .entity e (base + off)
    | q => q)

/-- The team, when it is a known one. -/
def tfTeam (p : Ptr) : Run (Option Team) := do
  pure ((← tryInt .base "team" p).bind Coded.decode?)

/-- The world position. -/
def absOrigin (p : Ptr) : Run (Option (Vec 3)) := do
  pure ((← call p "C_BaseEntity::GetAbsOrigin" 9 []).bind (·.result.asVec))

/-- The world angles. -/
def absAngles (p : Ptr) : Run (Option (Vec 3)) := do
  pure ((← call p "C_BaseEntity::GetAbsAngles" 10 []).bind (·.result.asVec))

/-- The client class, by index. -/
def clientClass (p : Ptr) : Run (Option Nat) := do
  let n ← networkablePart p
  match ← call n "IClientNetworkable::GetClientClass" 2 [] with
  | some o =>
    match o.result.asPtr with
    | .clientClass c => pure (if c < (← get).world.classes.classes.length then some c else none)
    | _ => pure none
  | none => pure none

/-- The class of a client class index. -/
def classAt (c : Nat) : Run (Option Netvar.ClientClass) := do
  pure (← get).world.classes.classes[c]?

/-- The network name of the entity's class, when it is UTF-8. -/
def className (p : Ptr) : Run (Option String) := do
  match ← clientClass p with
  | some c => pure (((← classAt c).map (·.name)).bind CString.text?)
  | none => pure none

/-- The id of the entity's class. -/
def classId (p : Ptr) : Run (Option Int) := do
  match ← clientClass p with
  | some c => pure ((← classAt c).map (·.id))
  | none => pure none

/-- The entity is dormant; true when unknown. -/
def isDormant (p : Ptr) : Run Bool := do
  let n ← networkablePart p
  pure (((← call n "IClientNetworkable::IsDormant" 8 []).map (·.result.asBool)).getD true)

/-- The entity's index; `-1` when unknown. -/
def index (p : Ptr) : Run Int := do
  let n ← networkablePart p
  Client.intCall n "IClientNetworkable::entindex" 9 (-1) []

/-- The entity's model. -/
def model (p : Ptr) : Run (Option Ptr) := do
  let r ← renderablePart p
  pure (nonNull (← call r "IClientRenderable::GetModel" 9 []))

/-- Sets up at most `maxBones` bone matrices: whether the entity did, and the matrices. -/
def setupBones (p : Ptr) (maxBones : Nat) (mask : Int) (time : Float32) :
    Run (Bool × List (Matrix 3 4)) := do
  let r ← renderablePart p
  let limit : Int := min maxBones ((Nat.pow 2 31 : Int) - 1)
  let blank : List (Matrix 3 4) := List.replicate maxBones Matrix.zero
  match ← call r "IClientRenderable::SetupBones" 16 [.buffer, .int limit, .int mask, .float time] with
  | some o =>
    let out := match o.written with
      | some (.bones ms) => ms ++ blank.drop ms.length
      | _ => blank
    pure (o.result.asBool, out)
  | none => pure (false, blank)

/-- Runs module code at a code address with one argument, as the stand-in modules' code does:
the first function returns the word at byte `0x40` of its argument, the helper its argument. -/
def runCode (module : String) (offset : Int) (arg : Ptr) : Run Ptr := do
  if module = "" then pure .null
  else if offset = helperOffset then pure arg
  else if offset = boneCacheOffset then
    match ← memoryAt arg with
    | some (_, mem, base) =>
      let v := Netvar.loadAt Cell.u64 mem (base + boneCacheField)
      pure (if v = 0 then .null else .address v)
    | none => pure .null
  else pure .null

/-- The entity's bone cache, through the function the SDK located; none when it is unknown or
the function answers null. -/
def boneCache (p : Ptr) : Run (Option Ptr) := do
  let s ← get
  let fn ← match s.boneCache with
    | some f => pure (some f)
    | none =>
      match (s.sdk.bind fun r => r.addresses.lookup "C_BaseAnimating::GetBoneCache") with
      | some f => do
        modify fun s => { s with boneCache := some f }
        pure (some f)
      | none => pure none
  match fn with
  | some (.code m off) =>
    let r ← runCode m off p
    pure (if r.isNull then none else some r)
  | _ => pure none

/-- The player in a slot, for slots `1` to the most players. -/
def player (index : Int) : Run (Option Ptr) := do
  if index < 1 || index > maxPlayers then return none
  clientEntity index

/-- The engine client, when the engine has one. -/
def engineClient? : Run (Option Ptr) := service? .engineClient

/-- The local player. -/
def localPlayer : Run (Option Ptr) := do
  match ← engineClient? with
  | some ec => player (← Client.Engine.localPlayer ec)
  | none => pure none

/-- Every player, from slot `1` to the number of player slots. -/
def players : Run (List Ptr) := do
  let count ← match ← engineClient? with
    | some ec => Client.Engine.maxClients ec
    | none => pure 0
  let found ← (List.range count.toNat).mapM fun (i : Nat) => player (i + 1)
  pure (found.filterMap id)

/-- The player is alive. -/
def isAlive (p : Ptr) : Run Bool := do
  pure ((← tryInt .player "life_state" p) == some 0)

/-- The object's kind, when it is a known one. -/
def objectKind (p : Ptr) : Run (Option BuildingKind) := do
  pure ((← tryInt .object "object_type" p).bind Coded.decode?)

end EngineSdk.Entity
