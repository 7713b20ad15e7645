import EngineSdk.StandIn.World
import EngineSdk.Text.Utf8

/-!
# Calling the stand-in engine

The SDK calls an engine object by taking a slot of its method table and calling the function
there with the object and some arguments.  Here a pointer (`Ptr`) names what it points at: an
interface object, the network channel, a byte of an entity, a client class, a model, a material
and so on.  `World.methodAt` finds the function in a slot; `Method.invoke` runs it.

A function answers a `Word`, the value left where the caller looks for its result, and may fill
buffers the caller passed (`Written`).  A caller reads the word as the type it expects: an
integer, a flag, a binary32 number, a pointer or a C string.  Reading a word of another kind
gives zero, false or null: the caller called a slot whose function is not the one it meant.

The functions of the stand-in engine, by object and slot:

* engine client: 5 screen size, 8 player info, 9 player for user id, 12 local player, 19 and 20
  get and set view angles, 21 max clients, 26 in game, 27 connected, 36 world-to-screen matrix,
  51 level name, 72 network channel, 106 run a command;
* network channel: 0 name, 1 address, 2 time, 3 time connected, 6 loopback, 7 timing out,
  9 to 16 the per-direction statistics;
* client: 8 the class list; entity list: 0 networkable, 3 entity, 4 entity of a handle,
  5 count, 6 highest index, 8 max;
* entity, unknown part: 9 origin, 10 angles; renderable part: 9 model, 16 set up bones;
  networkable part: 2 client class, 8 dormant, 9 index;
* model info: 2 index of a name, 3 name of a model, 28 studio header; console variables:
  12 find; material system: 73 find; material: 0 name, 1 texture group, 27 alpha, 28 color,
  29 set flag, 30 get flag; panel: 36 name; server: 18 index of an edict; player info manager:
  1 global variables; physics object: 2 static, 3 asleep, 30 mass, 48 position.
-/

namespace EngineSdk.StandIn

/-- What a pointer handed between the SDK and the engine points at. -/
inductive Ptr where
  | null
  /-- The object serving an interface. -/
  | iface (i : Interface)
  | netChannel
  /-- A byte of an entity's memory. -/
  | entity (e : Nat) (offset : Int)
  | clientClass (c : Nat)
  | model (m : Nat)
  /-- The studio header of a model. -/
  | studio (m : Nat)
  | material (m : Nat)
  | physics (p : Nat)
  | conVar (v : Nat)
  | edict (e : Nat)
  /-- Code in a loaded module, at an offset from its first function. -/
  | code (module : String) (offset : Int)
  /-- A function of the host program. -/
  | hostFunction
  /-- An address of no object the stand-in engine knows. -/
  | address (a : Nat)
  /-- Memory the stand-in engine knows nothing about. -/
  | foreign
deriving DecidableEq, Repr

/-- The pointer is null. -/
def Ptr.isNull (p : Ptr) : Bool := p == .null

/-- A function in a slot of a method table. -/
inductive Method where
  | screenSize
  | playerInfo
  | playerForUserId
  | localPlayer
  | getViewAngles
  | setViewAngles
  | maxClients
  | inGame
  | connected
  | worldToScreen
  | levelName
  | netChannelInfo
  | clientCmd
  | channelName
  | channelAddress
  | channelTime
  | timeConnected
  | loopback
  | timingOut
  | flowStat (k : FlowStat)
  | allClasses
  | absOrigin
  | absAngles
  | getModel
  | setupBones
  | getClientClass
  | isDormant
  | entIndex
  | listNetworkable
  | listEntity
  | listFromHandle
  | listCount
  | listHighest
  | listMax
  | modelIndex
  | modelName
  | studioModel
  | findVar
  | findMaterial
  | materialName
  | textureGroup
  | alphaModulate
  | colorModulate
  | setVarFlag
  | getVarFlag
  | panelName
  | indexOfEdict
  | getGlobalVars
  | physicsStatic
  | physicsAsleep
  | physicsMass
  | physicsPosition
deriving DecidableEq, Repr

/-- An argument of a call. -/
inductive Arg where
  | int (v : Int)
  | float (v : Float32)
  | ptr (p : Ptr)
  /-- A pointer to a C string holding these bytes. -/
  | text (bytes : List UInt8)
  /-- A pointer to a vector the caller holds. -/
  | vec (v : Vec 3)
  /-- A pointer to a buffer for the function to fill. -/
  | buffer

/-- The value a function leaves as its result. -/
inductive Word where
  | none
  | int (v : Int)
  | float (v : Float32)
  | ptr (p : Ptr)
  /-- A pointer to a C string, or null. -/
  | text (s : CString)
  /-- A pointer to a vector, or null. -/
  | vec (v : Option (Vec 3))
  /-- A pointer to a 4×4 matrix, or null. -/
  | matrix (m : Option (Matrix 4 4))
  /-- A pointer to the global variables, or null. -/
  | vars (g : Option GlobalVars)

/-- What a function writes into a buffer the caller passed. -/
inductive Written where
  | ints (vs : List Int)
  | player (p : PlayerRecord)
  | vec (v : Vec 3)
  | bones (ms : List (Matrix 3 4))
  | pose (position angles : Vec 3)

/-- The outcome of a call: the result and what was written. -/
structure Outcome where
  result : Word
  written : Option Written

namespace Word

/-- The word as a 32-bit integer. -/
def asInt : Word → Int
  | .int v => v
  | _ => 0

/-- The word as a flag: its low byte is not zero. -/
def asBool : Word → Bool
  | .int v => v % 256 != 0
  | _ => false

/-- The word as a binary32 number. -/
def asFloat : Word → Float32
  | .float v => v
  | _ => 0

/-- The word as a pointer. -/
def asPtr : Word → Ptr
  | .ptr p => p
  | _ => .null

/-- The word as a C string. -/
def asText : Word → CString
  | .text s => s
  | _ => Option.none

/-- The word as a pointer to a vector. -/
def asVec : Word → Option (Vec 3)
  | .vec v => v
  | _ => Option.none

/-- The word as a pointer to a matrix. -/
def asMatrix : Word → Option (Matrix 4 4)
  | .matrix m => m
  | _ => Option.none

/-- The word as a pointer to the global variables. -/
def asVars : Word → Option GlobalVars
  | .vars g => g
  | _ => Option.none

/-- A flag as a word. -/
def ofBool (b : Bool) : Word := .int (if b then 1 else 0)

end Word

namespace Arg

/-- The argument as an integer. -/
def asInt : Arg → Int
  | .int v => v
  | _ => 0

/-- The argument as a binary32 number. -/
def asFloat : Arg → Float32
  | .float v => v
  | _ => 0

/-- The argument as a pointer. -/
def asPtr : Arg → Ptr
  | .ptr p => p
  | _ => .foreign

/-- The bytes of a C string argument; none when it is no string. -/
def asText : Arg → Option (List UInt8)
  | .text bs => some bs
  | _ => none

end Arg

/-- The `i`-th argument, or a zero. -/
def argAt (args : List Arg) (i : Nat) : Arg := args.getD i (.int 0)

/-- The slots of the engine client. -/
def engineClientSlots : List (Nat × Method) :=
  [(5, .screenSize), (8, .playerInfo), (9, .playerForUserId), (12, .localPlayer),
    (19, .getViewAngles), (20, .setViewAngles), (21, .maxClients), (26, .inGame),
    (27, .connected), (36, .worldToScreen), (51, .levelName), (72, .netChannelInfo),
    (106, .clientCmd)]

/-- The slots of a network channel. -/
def netChannelSlots : List (Nat × Method) :=
  [(0, .channelName), (1, .channelAddress), (2, .channelTime), (3, .timeConnected),
    (6, .loopback), (7, .timingOut), (9, .flowStat .latency), (10, .flowStat .avgLatency),
    (11, .flowStat .avgLoss), (12, .flowStat .avgChoke), (13, .flowStat .avgData),
    (14, .flowStat .avgPackets), (15, .flowStat .totalData), (16, .flowStat .sequenceNr)]

/-- The slots of an entity part. -/
def EntityPart.slots : EntityPart → List (Nat × Method)
  | .unknown => [(9, .absOrigin), (10, .absAngles)]
  | .renderable => [(9, .getModel), (16, .setupBones)]
  | .networkable => [(2, .getClientClass), (8, .isDormant), (9, .entIndex)]

/-- The slots of an interface object. -/
def interfaceSlots : Interface → List (Nat × Method)
  | .engineClient => engineClientSlots
  | .clientDll => [(8, .allClasses)]
  | .clientEntityList =>
    [(0, .listNetworkable), (3, .listEntity), (4, .listFromHandle), (5, .listCount),
      (6, .listHighest), (8, .listMax)]
  | .modelInfo => [(2, .modelIndex), (3, .modelName), (28, .studioModel)]
  | .cvar => [(12, .findVar)]
  | .materialSystem => [(73, .findMaterial)]
  | .panel => [(36, .panelName)]
  | .engineServer => [(18, .indexOfEdict)]
  | .playerInfoManager => [(1, .getGlobalVars)]
  | _ => []

/-- The slots of a material. -/
def materialSlots : List (Nat × Method) :=
  [(0, .materialName), (1, .textureGroup), (27, .alphaModulate), (28, .colorModulate),
    (29, .setVarFlag), (30, .getVarFlag)]

/-- The slots of a physics object. -/
def physicsSlots : List (Nat × Method) :=
  [(2, .physicsStatic), (3, .physicsAsleep), (30, .physicsMass), (48, .physicsPosition)]

/-- The number of slots of every method table. -/
def tableSize : Nat := 256

/-- The slots of a table with the empty ones taken out. -/
def present (slots : List (Nat × Method)) (missing : List Nat) : List (Nat × Method) :=
  slots.filter fun (i, _) => !missing.contains i

namespace World

/-- The filled slots of the object a pointer points at; none when it has no method table. -/
def table? (w : World) : Ptr → Option (List (Nat × Method))
  | .iface i => some (present (interfaceSlots i) ((w.missing.lookup i).getD []))
  | .netChannel => w.engineClient.netChannel.map fun c => present netChannelSlots c.missing
  | .entity e off => do
    let ent ← w.entities[e]?
    let part ← EntityPart.at? off
    if !ent.hasTables then none
    else some (part.slots.filter fun (i, _) => !ent.nulled.contains (part, i))
  | .material m => (w.materials[m]?).map fun mat => present materialSlots mat.missing
  | .physics p => (w.physics[p]?).map fun o => present physicsSlots o.missing
  | _ => none

/-- The function in slot `i` of the object a pointer points at. -/
def methodAt (w : World) (p : Ptr) (i : Nat) : Option Method :=
  if i < tableSize then (w.table? p).bind (·.lookup i) else none

/-- The entity at a slot of the entity list. -/
def slotEntity (w : World) (i : Int) : Option Nat :=
  if i < 0 then none else (w.entityList.slots[i.toNat]?).bind (·.entity)

/-- The entity a raw handle names: the slot of its low 12 bits, when its serial matches. -/
def handleEntity (w : World) (raw : Int) : Option Nat :=
  let r := raw.toNat % Nat.pow 2 32
  match w.entityList.slots[r % 4096]? with
  | some s => if s.serial == r / 4096 then s.entity else none
  | none => none

/-- The first model whose name is `name`. -/
def modelNamed (w : World) (name : List UInt8) : Option Model :=
  w.models.find? (·.name.sameAs name)

end World

/-- A pointer to an entity, or null. -/
def entityPtr (e : Option Nat) (offset : Int) : Word :=
  .ptr (match e with
    | some e => .entity e offset
    | none => .null)

/-- A function of the engine client. -/
def engineClientCall (c : EngineClient) (m : Method) (args : List Arg) :
    StateM World Outcome := do
  let just (w : Word) : StateM World Outcome := pure ⟨w, none⟩
  match m with
  | .screenSize => pure ⟨.none, some (.ints [c.screen.1, c.screen.2])⟩
  | .playerInfo =>
    match c.players.lookup (argAt args 0).asInt with
    | some p => pure ⟨.int 1, some (.player p)⟩
    | none => just (.int 0)
  | .playerForUserId => just (.int ((c.userIds.lookup (argAt args 0).asInt).getD 0))
  | .localPlayer => just (.int c.localPlayer)
  | .getViewAngles => pure ⟨.none, some (.vec c.viewAngles)⟩
  | .setViewAngles =>
    match argAt args 0 with
    | .vec v => do
      modify fun w => { w with engineClient := { w.engineClient with viewAngles := v } }
      just .none
    | _ => just .none
  | .maxClients => just (.int c.maxClients)
  | .inGame => just (.ofBool c.inGame)
  | .connected => just (.ofBool c.connected)
  | .worldToScreen => just (.matrix c.worldToScreen)
  | .levelName => just (.text c.levelName)
  | .netChannelInfo => just (.ptr (if c.netChannel.isSome then .netChannel else .null))
  | .clientCmd =>
    match (argAt args 0).asText with
    | some bs => do
      modify fun w => { w with commands := w.commands ++ [Utf8.decodeLossy bs] }
      just .none
    | none => just .none
  | _ => just .none

/-- A function of the network channel. -/
def netChannelCall (c : NetChannel) (m : Method) (args : List Arg) : Word :=
  let flow := (argAt args 0).asInt
  let pick {α : Type} (zero : α) (pair : Flows α) : α :=
    if flow = 0 then pair.1 else if flow = 1 then pair.2 else zero
  match m with
  | .channelName => .text c.name
  | .channelAddress => .text c.address
  | .channelTime => .float c.time
  | .timeConnected => .float c.timeConnected
  | .loopback => .ofBool c.loopback
  | .timingOut => .ofBool c.timingOut
  | .flowStat k =>
    if k == .totalData || k == .sequenceNr then .int (pick 0 (c.counts k))
    else .float (pick 0 (c.rates k))
  | _ => .none

/-- A function of an entity. -/
def entityCall (e : Nat) (ent : Entity) (m : Method) (args : List Arg) : StateM World Outcome := do
  let just (w : Word) : StateM World Outcome := pure ⟨w, none⟩
  match m with
  | .absOrigin => just (.vec ent.origin)
  | .absAngles => just (.vec ent.angles)
  | .getModel => just (.ptr (match ent.model with
    | some i => .model i
    | none => .null))
  | .setupBones =>
    let maxBones := (argAt args 1).asInt
    modify fun w => { w with boneCalls := w.boneCalls ++
      [⟨e, maxBones, (argAt args 2).asInt, (argAt args 3).asFloat⟩] }
    pure ⟨.ofBool ent.setupOk, some (.bones (ent.bones.take maxBones.toNat))⟩
  | .getClientClass => just (.ptr (match ent.clientClass with
    | some i => .clientClass i
    | none => .null))
  | .isDormant => just (.ofBool ent.dormant)
  | .entIndex => just (.int ent.index)
  | _ => just .none

/-- A function of the entity list. -/
def entityListCall (w : World) (m : Method) (args : List Arg) : Word :=
  let l := w.entityList
  match m with
  | .listNetworkable => entityPtr (w.slotEntity (argAt args 0).asInt) 16
  | .listEntity => entityPtr (w.slotEntity (argAt args 0).asInt) 0
  | .listFromHandle => entityPtr (w.handleEntity (argAt args 0).asInt) 0
  | .listCount => .int (if (argAt args 0).asInt % 256 != 0 then l.count.2 else l.count.1)
  | .listHighest => .int l.highest
  | .listMax => .int l.max
  | _ => .none

/-- A function of the model information object. -/
def modelInfoCall (w : World) (m : Method) (args : List Arg) : Word :=
  let model? : Option (Nat × Model) := match (argAt args 0).asPtr with
    | .model i => (w.models[i]?).map fun x => (i, x)
    | _ => none
  match m with
  | .modelIndex =>
    .int (match (argAt args 0).asText.bind w.modelNamed with
      | some x => x.index
      | none => -1)
  | .modelName => .text (model?.bind (·.2.name))
  | .studioModel =>
    .ptr (match model? with
      | some (i, x) => if x.studio.isSome then .studio i else .null
      | none => .null)
  | _ => .none

/-- A function of a material. -/
def materialCall (i : Nat) (mat : Material) (m : Method) (args : List Arg) :
    StateM World Outcome := do
  let just (w : Word) : StateM World Outcome := pure ⟨w, none⟩
  let update (f : Material → Material) : StateM World Outcome := do
    modify fun w => { w with materials := w.materials.modify i f }
    just .none
  match m with
  | .materialName => just (.text mat.name)
  | .textureGroup => just (.text mat.group)
  | .alphaModulate => update fun x => { x with alpha := (argAt args 0).asFloat }
  | .colorModulate =>
    update fun x => { x with
      color := Vec.mk3 (argAt args 0).asFloat (argAt args 1).asFloat (argAt args 2).asFloat }
  | .setVarFlag =>
    let flag := (argAt args 0).asInt.toNat % Nat.pow 2 32
    let on := (argAt args 1).asInt % 256 != 0
    modify fun w => { w with materialCalls := w.materialCalls ++ [.setFlag i flag on] }
    update fun x => { x with
      flags := if on then x.flags ||| flag else x.flags &&& (Nat.pow 2 32 - 1 - flag) }
  | .getVarFlag => just (.ofBool (mat.flags &&& ((argAt args 0).asInt.toNat % Nat.pow 2 32) != 0))
  | _ => just .none

/-- A function of a physics object. -/
def physicsCall (o : PhysicsObject) (m : Method) : Outcome :=
  match m with
  | .physicsStatic => ⟨.ofBool o.isStatic, none⟩
  | .physicsAsleep => ⟨.ofBool o.asleep, none⟩
  | .physicsMass => ⟨.float o.mass, none⟩
  | .physicsPosition => ⟨.none, some (.pose o.position o.angles)⟩
  | _ => ⟨.none, none⟩

/-- A function of one of the other interface objects. -/
def serviceCall (w : World) (m : Method) (args : List Arg) : StateM World Outcome := do
  let just (x : Word) : StateM World Outcome := pure ⟨x, none⟩
  match m with
  | .allClasses =>
    just (.ptr (if w.nullClasses || w.classes.classes.isEmpty then .null else .clientClass 0))
  | .findVar =>
    just (.ptr (match (argAt args 0).asText with
      | some name =>
        match w.conVars.vars.findIdx? (·.name.sameAs name) with
        | some i => .conVar i
        | none => .null
      | none => .null))
  | .findMaterial =>
    let name := ((argAt args 0).asText).getD []
    let group := ((argAt args 1).asText).getD []
    modify fun w => { w with materialCalls := w.materialCalls ++
      [.find name group ((argAt args 2).asInt % 256 != 0)] }
    just (.ptr (match w.materials.findIdx? (·.name.sameAs name) with
      | some i => .material i
      | none => .null))
  | .panelName =>
    let id := (argAt args 0).asInt
    just (.text (if id < 0 then none else (w.panels.lookup id.toNat).getD none))
  | .indexOfEdict =>
    just (.int (match (argAt args 0).asPtr with
      | .edict i => w.edicts.getD i 0
      | _ => 0))
  | .getGlobalVars => just (.vars w.globalVars)
  | _ => just .none

/-- Runs the function `m` on the object `self` points at, with `args`. -/
def Method.invoke (m : Method) (self : Ptr) (args : List Arg) : StateM World Outcome := do
  let w ← get
  match self with
  | .iface .engineClient => engineClientCall w.engineClient m args
  | .iface .clientEntityList => pure ⟨entityListCall w m args, none⟩
  | .iface .modelInfo => pure ⟨modelInfoCall w m args, none⟩
  | .iface _ => serviceCall w m args
  | .netChannel =>
    match w.engineClient.netChannel with
    | some c => pure ⟨netChannelCall c m args, none⟩
    | none => pure ⟨.none, none⟩
  | .entity e _ =>
    match w.entities[e]? with
    | some ent => entityCall e ent m args
    | none => pure ⟨.none, none⟩
  | .material i =>
    match w.materials[i]? with
    | some mat => materialCall i mat m args
    | none => pure ⟨.none, none⟩
  | .physics i =>
    match w.physics[i]? with
    | some o => pure (physicsCall o m)
    | none => pure ⟨.none, none⟩
  | _ => pure ⟨.none, none⟩

end EngineSdk.StandIn
