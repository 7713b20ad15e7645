import EngineSdk.Session.Startup
import EngineSdk.Text.Utf8

/-!
# The client's services

Wrappers over the engine objects the client uses, each taking the object's pointer: the engine
client, its network channel, the material system and its materials, model information, panels,
physics objects and the console variable registry.  Each method goes through `Run.call` with
its gamedata key and default slot, and reads the result as the type it expects.  A method whose
slot is empty answers a fixed value instead: zero, false, an empty text, nothing.

C strings coming back are read with replacement of ill-formed UTF-8; texts going out must hold
no NUL, else the method answers its empty value without calling.
-/

namespace EngineSdk.Client

open StandIn Run

/-- The bytes of a text passed as a C string, when it holds no NUL. -/
def cText? (s : String) : Option (List UInt8) :=
  let bs := s.toUTF8.toList
  if bs.contains 0 then none else some bs

/-- A C string result as text: empty for a null pointer. -/
def textOf (s : CString) : String := (s.map Utf8.decodeLossy).getD ""

/-- The result word of a call, when the slot is filled. -/
def result? (o : Option Outcome) : Option Word := o.map (·.result)

/-- Calls a method with no arguments and reads an integer; `d` when the slot is empty. -/
def intCall (p : Ptr) (key : String) (slot : Nat) (d : Int) (args : List Arg) : Run Int := do
  pure (((← call p key slot args).map (·.result.asInt)).getD d)

/-- Calls a method and reads a flag; false when the slot is empty. -/
def boolCall (p : Ptr) (key : String) (slot : Nat) (args : List Arg) : Run Bool := do
  pure (((← call p key slot args).map (·.result.asBool)).getD false)

/-- Calls a method and reads a binary32 number; zero when the slot is empty. -/
def floatCall (p : Ptr) (key : String) (slot : Nat) (args : List Arg) : Run Float32 := do
  pure (((← call p key slot args).map (·.result.asFloat)).getD 0)

/-- Calls a method and reads a C string as text; empty when the slot is empty or the string
null. -/
def textCall (p : Ptr) (key : String) (slot : Nat) (args : List Arg) : Run String := do
  pure (((← call p key slot args).map (textOf ·.result.asText)).getD "")

/-- Calls a method and reads a C string; none when the slot is empty or the string null. -/
def textCall? (p : Ptr) (key : String) (slot : Nat) (args : List Arg) :
    Run (Option String) := do
  pure (((← call p key slot args).bind (·.result.asText)).map Utf8.decodeLossy)

namespace Engine

/-- The screen size; zeros when unknown. -/
def screenSize (p : Ptr) : Run (Int × Int) := do
  match ← call p "IVEngineClient::GetScreenSize" 5 [.buffer, .buffer] with
  | some ⟨_, some (.ints [w, h])⟩ => pure (w, h)
  | _ => pure (0, 0)

/-- The record of a player, when the engine has one. -/
def playerInfo (p : Ptr) (index : Int) : Run (Option PlayerRecord) := do
  match ← call p "IVEngineClient::GetPlayerInfo" 8 [.int index, .buffer] with
  | some o =>
    if o.result.asBool then
      pure (some (match o.written with
        | some (.player r) => r
        | _ => ⟨[], 0, [], 0, [], false, false, false⟩))
    else pure none
  | none => pure none

/-- The player index of a user id; zero when unknown. -/
def playerForUserId (p : Ptr) (userId : Int) : Run Int :=
  intCall p "IVEngineClient::GetPlayerForUserID" 9 0 [.int userId]

/-- The local player's index. -/
def localPlayer (p : Ptr) : Run Int := intCall p "IVEngineClient::GetLocalPlayer" 12 0 []

/-- The view angles; zeros when unknown. -/
def viewAngles (p : Ptr) : Run (Vec 3) := do
  match ← call p "IVEngineClient::GetViewAngles" 19 [.buffer] with
  | some ⟨_, some (.vec v)⟩ => pure v
  | _ => pure Vec.zero

/-- Sets the view angles. -/
def setViewAngles (p : Ptr) (v : Vec 3) : Run Unit := do
  let _ ← call p "IVEngineClient::SetViewAngles" 20 [.vec v]

/-- The number of player slots. -/
def maxClients (p : Ptr) : Run Int := intCall p "IVEngineClient::GetMaxClients" 21 0 []

/-- In a game. -/
def isInGame (p : Ptr) : Run Bool := boolCall p "IVEngineClient::IsInGame" 26 []

/-- Connected to a server. -/
def isConnected (p : Ptr) : Run Bool := boolCall p "IVEngineClient::IsConnected" 27 []

/-- The world-to-screen matrix, when there is one. -/
def worldToScreen (p : Ptr) : Run (Option (Matrix 4 4)) := do
  pure ((← call p "IVEngineClient::WorldToScreenMatrix" 36 []).bind (·.result.asMatrix))

/-- The level's name; empty when unknown. -/
def levelName (p : Ptr) : Run String := textCall p "IVEngineClient::GetLevelName" 51 []

/-- The network channel, when there is one. -/
def netChannel? (p : Ptr) : Run (Option Ptr) := do
  match ← call p "IVEngineClient::GetNetChannelInfo" 72 [] with
  | some o => pure (if o.result.asPtr.isNull then none else some o.result.asPtr)
  | none => pure none

/-- Runs a console command: whether it was handed to the engine. -/
def clientCmd (p : Ptr) (cmd : String) : Run Bool := do
  match cText? cmd with
  | none => pure false
  | some bs => pure (← call p "IVEngineClient::ClientCmd_Unrestricted" 106 [.text bs]).isSome

end Engine

namespace Channel

/-- The key and default slot of a per-direction statistic. -/
def statMethod : FlowStat → String × Nat
  | .latency => ("INetChannelInfo::GetLatency", 9)
  | .avgLatency => ("INetChannelInfo::GetAvgLatency", 10)
  | .avgLoss => ("INetChannelInfo::GetAvgLoss", 11)
  | .avgChoke => ("INetChannelInfo::GetAvgChoke", 12)
  | .avgData => ("INetChannelInfo::GetAvgData", 13)
  | .avgPackets => ("INetChannelInfo::GetAvgPackets", 14)
  | .totalData => ("INetChannelInfo::GetTotalData", 15)
  | .sequenceNr => ("INetChannelInfo::GetSequenceNr", 16)

/-- The channel's name. -/
def name (p : Ptr) : Run String := textCall p "INetChannelInfo::GetName" 0 []

/-- The remote address. -/
def address (p : Ptr) : Run String := textCall p "INetChannelInfo::GetAddress" 1 []

/-- The current time. -/
def time (p : Ptr) : Run Float32 := floatCall p "INetChannelInfo::GetTime" 2 []

/-- How long the channel has been connected. -/
def timeConnected (p : Ptr) : Run Float32 := floatCall p "INetChannelInfo::GetTimeConnected" 3 []

/-- A loopback channel. -/
def isLoopback (p : Ptr) : Run Bool := boolCall p "INetChannelInfo::IsLoopback" 6 []

/-- The channel is timing out. -/
def isTimingOut (p : Ptr) : Run Bool := boolCall p "INetChannelInfo::IsTimingOut" 7 []

/-- A binary32 statistic of one direction. -/
def rate (p : Ptr) (k : FlowStat) (flow : Int) : Run Float32 :=
  floatCall p (statMethod k).1 (statMethod k).2 [.int flow]

/-- An integer statistic of one direction. -/
def count (p : Ptr) (k : FlowStat) (flow : Int) : Run Int :=
  intCall p (statMethod k).1 (statMethod k).2 0 [.int flow]

/-- The binary32 statistics, both directions each. -/
def rateStats : List FlowStat := [.latency, .avgLatency, .avgLoss, .avgChoke, .avgData, .avgPackets]

/-- The statistics of both directions, gathered direction by direction. -/
structure Stats where
  rates : List (FlowStat × Flows Float32)
  counts : List (FlowStat × Flows Int)

/-- Every statistic: each of the outgoing direction, then each of the incoming one. -/
def stats (p : Ptr) : Run Stats := do
  let out ← rateStats.mapM fun k => rate p k 0
  let outCounts ← [FlowStat.totalData, .sequenceNr].mapM fun k => count p k 0
  let inc ← rateStats.mapM fun k => rate p k 1
  let incCounts ← [FlowStat.totalData, .sequenceNr].mapM fun k => count p k 1
  pure ⟨rateStats.zip (out.zip inc), [FlowStat.totalData, .sequenceNr].zip (outCounts.zip incCounts)⟩

/-- The sum of the latencies of both directions. -/
def Stats.roundTrip (s : Stats) : Float32 :=
  match s.rates.lookup .latency with
  | some (a, b) => (-0.0 + a) + b
  | none => 0

/-- Every statistic equals itself: none is NaN. -/
def Stats.stable (s : Stats) : Bool :=
  s.rates.all fun (_, a, b) => a == a && b == b

end Channel

namespace Materials

/-- Finds a material by name and texture group. -/
def find (p : Ptr) (name group : String) : Run (Option Ptr) := do
  match cText? name, cText? group with
  | some n, some g =>
    match ← call p "IMaterialSystem::FindMaterial" 73 [.text n, .text g, .int 0, .ptr .null] with
    | some o => pure (if o.result.asPtr.isNull then none else some o.result.asPtr)
    | none => pure none
  | _, _ => pure none

/-- A material's name. -/
def name (m : Ptr) : Run String := textCall m "IMaterial::GetName" 0 []

/-- A material's texture group. -/
def textureGroup (m : Ptr) : Run String := textCall m "IMaterial::GetTextureGroupName" 1 []

/-- Sets a material's alpha. -/
def alphaModulate (m : Ptr) (alpha : Float32) : Run Unit := do
  let _ ← call m "IMaterial::AlphaModulate" 27 [.float alpha]

/-- Sets a material's color. -/
def colorModulate (m : Ptr) (r g b : Float32) : Run Unit := do
  let _ ← call m "IMaterial::ColorModulate" 28 [.float r, .float g, .float b]

/-- Switches flags of a material on or off. -/
def setVarFlag (m : Ptr) (flags : Nat) (on : Bool) : Run Unit := do
  let _ ← call m "IMaterial::SetMaterialVarFlag" 29 [.int flags, .int (if on then 1 else 0)]

/-- A flag of a material is set. -/
def varFlag (m : Ptr) (flag : Nat) : Run Bool :=
  boolCall m "IMaterial::GetMaterialVarFlag" 30 [.int flag]

end Materials

namespace Models

/-- The index of a model name; `-1` when unknown. -/
def modelIndex (p : Ptr) (name : String) : Run Int := do
  match cText? name with
  | none => pure (-1)
  | some bs => intCall p "IVModelInfoClient::GetModelIndex" 2 (-1) [.text bs]

/-- The name of a model. -/
def modelName (p : Ptr) (model : Ptr) : Run (Option String) := do
  if model.isNull then pure none
  else textCall? p "IVModelInfoClient::GetModelName" 3 [.ptr model]

/-- The studio header of a model, by model index. -/
def studio (p : Ptr) (model : Ptr) : Run (Option StudioModel) := do
  if model.isNull then return none
  match ← call p "IVModelInfoClient::GetStudiomodel" 28 [.ptr model] with
  | some o =>
    match o.result.asPtr with
    | .studio i => pure (((← get).world.models[i]?).bind (·.studio))
    | _ => pure none
  | none => pure none

end Models

/-- The name of a panel. -/
def panelName (p : Ptr) (panel : Nat) : Run (Option String) :=
  textCall? p "IPanel::GetName" 36 [.int panel]

namespace Physics

/-- The mass; zero when unknown. -/
def mass (p : Ptr) : Run Float32 := floatCall p "IPhysicsObject::GetMass" 30 []

/-- The object does not move. -/
def isStatic (p : Ptr) : Run Bool := boolCall p "IPhysicsObject::IsStatic" 2 []

/-- The object sleeps. -/
def isAsleep (p : Ptr) : Run Bool := boolCall p "IPhysicsObject::IsAsleep" 3 []

/-- The position and angles, when the object reports them. -/
def position (p : Ptr) : Run (Option (Vec 3 × Vec 3)) := do
  match ← call p "IPhysicsObject::GetPosition" 48 [.buffer, .buffer] with
  | some o =>
    match o.written with
    | some (.pose a b) => pure (some (a, b))
    | _ => pure (some (Vec.zero, Vec.zero))
  | none => pure none

end Physics

/-- Finds a console variable by name, by its index. -/
def findVar (p : Ptr) (name : String) : Run (Option Nat) := do
  match cText? name with
  | none => pure none
  | some bs =>
    match ← call p "ICvar::FindVar" 12 [.text bs] with
    | some o =>
      match o.result.asPtr with
      | .conVar i => pure (some i)
      | _ => pure none
    | none => pure none

end EngineSdk.Client
