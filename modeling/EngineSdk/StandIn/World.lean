import EngineSdk.Text.CString
import EngineSdk.Math.Matrix
import EngineSdk.Netvar.Offsets
import EngineSdk.Studio.Model
import EngineSdk.Convar.Basic
import EngineSdk.Interface.Table
import EngineSdk.Engine.GlobalVars

/-!
# The stand-in engine

The SDK runs inside a game process and talks to the engine only through objects with tables of
methods.  The stand-in engine is such a set of objects, described by data: an engine client with
its players and its network channel, the client's class list, entities and their entity list,
models, console variables, materials, panels, edicts, the global variables block and physics
objects.

`World` holds these objects together with what they remember of the calls made on them:
commands run, material lookups and flag changes, bone setups, and the interface requests made of
the stand-in factories.  Which interfaces the factories hand out is part of the world too.

Every object's method table has 256 slots; `missing` lists slots that are empty.
-/

namespace EngineSdk.StandIn

/-- A player as the engine client describes one. -/
structure PlayerRecord where
  /-- The name, at most 32 bytes. -/
  name : List UInt8
  userId : Int
  /-- The network identifier, at most 33 bytes. -/
  guid : List UInt8
  friendsId : Nat
  /-- The friends name, at most 32 bytes. -/
  friendsName : List UInt8
  fakePlayer : Bool
  hltv : Bool
  replay : Bool

/-- A pair of values, one per direction of traffic: outgoing, then incoming. -/
abbrev Flows (α : Type) := α × α

/-- The per-direction statistics of a network channel. -/
inductive FlowStat where
  | latency
  | avgLatency
  | avgLoss
  | avgChoke
  | avgData
  | avgPackets
  | totalData
  | sequenceNr
deriving DecidableEq, Repr

/-- A network channel. -/
structure NetChannel where
  name : CString
  address : CString
  time : Float32
  timeConnected : Float32
  loopback : Bool
  timingOut : Bool
  /-- The binary32 statistics, by kind. -/
  rates : FlowStat → Flows Float32
  /-- The integer statistics, by kind. -/
  counts : FlowStat → Flows Int
  missing : List Nat

/-- The engine client. -/
structure EngineClient where
  screen : Int × Int
  players : List (Int × PlayerRecord)
  userIds : List (Int × Int)
  localPlayer : Int
  viewAngles : Vec 3
  maxClients : Int
  inGame : Bool
  connected : Bool
  worldToScreen : Option (Matrix 4 4)
  levelName : CString
  netChannel : Option NetChannel

/-- The parts of an entity that have a method table, at byte offsets `0`, `8` and `16`. -/
inductive EntityPart where
  | unknown
  | renderable
  | networkable
deriving DecidableEq, Repr

/-- The byte offset of an entity part. -/
def EntityPart.offset : EntityPart → Nat
  | .unknown => 0
  | .renderable => 8
  | .networkable => 16

/-- The part at a byte offset of an entity. -/
def EntityPart.at? (offset : Int) : Option EntityPart :=
  if offset = 0 then some .unknown
  else if offset = 8 then some .renderable
  else if offset = 16 then some .networkable
  else none

/-- An entity. -/
structure Entity where
  /-- Its memory, which starts with the three method table pointers. -/
  memory : List UInt8
  /-- The method table pointers are set. -/
  hasTables : Bool
  origin : Option (Vec 3)
  angles : Option (Vec 3)
  /-- Its model, by index. -/
  model : Option Nat
  bones : List (Matrix 3 4)
  setupOk : Bool
  /-- Its client class, by index. -/
  clientClass : Option Nat
  dormant : Bool
  index : Int
  /-- Empty slots, by part. -/
  nulled : List (EntityPart × Nat)

/-- A slot of the entity list: the entity in it and the serial number of the slot. -/
structure ListSlot where
  entity : Option Nat
  serial : Nat

/-- The client entity list. -/
structure EntityList where
  slots : List ListSlot
  highest : Int
  /-- The number of networkable entities, and of all entities. -/
  count : Int × Int
  max : Int

/-- A model. -/
structure Model where
  name : CString
  index : Int
  studio : Option StudioModel

/-- A material. -/
structure Material where
  name : CString
  group : CString
  flags : Nat
  alpha : Float32
  color : Vec 3
  missing : List Nat

/-- A physics object. -/
structure PhysicsObject where
  mass : Float32
  isStatic : Bool
  asleep : Bool
  position : Vec 3
  angles : Vec 3
  missing : List Nat

/-- A call made on a material, as remembered. -/
inductive MaterialCall where
  /-- A lookup by name and texture group. -/
  | find (name group : List UInt8) (complain : Bool)
  /-- A flag switched on or off on a material. -/
  | setFlag (material : Nat) (flag : Nat) (on : Bool)

/-- A bone setup, as remembered: the entity, the bone limit, the mask and the time. -/
structure BoneCall where
  entity : Nat
  maxBones : Int
  mask : Int
  time : Float32

/-- An interface request made of a factory: the module, the version, and whether the factory
was supplied by the engine rather than exported by the module. -/
structure FactoryCall where
  module : String
  version : String
  supplied : Bool

/-- The stand-in engine: its objects and what they remember. -/
structure World where
  engineClient : EngineClient
  /-- The client's tables and classes. -/
  classes : Netvar.Registry
  /-- The client answers a null class list. -/
  nullClasses : Bool
  entities : List Entity
  entityList : EntityList
  models : List Model
  conVars : ConVarTable
  materials : List Material
  panels : List (Nat × CString)
  edicts : List Int
  /-- The global variables block, or a null pointer to it. -/
  globalVars : Option GlobalVars
  physics : List PhysicsObject
  /-- The interfaces the factories hand out. -/
  serve : List Interface
  /-- Empty slots of the interface objects. -/
  missing : List (Interface × List Nat)
  commands : List String
  materialCalls : List MaterialCall
  boneCalls : List BoneCall
  factoryCalls : List FactoryCall

end EngineSdk.StandIn
