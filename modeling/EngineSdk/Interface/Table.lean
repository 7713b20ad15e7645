/-!
# The interface table

The engine hands out its services as interfaces: a module's `CreateInterface` export returns
the object registered under a version string.  `Interface` lists every interface the SDK binds,
with the module that serves it and the version it asks for.  The first, second, third, fourth
and sixth rows are required; every other row is optional.

`Interface.all` is the table in its fixed order, which is also the order in which interfaces are
requested: the required ones first, then the optional ones, each group in table order.
-/

namespace EngineSdk

/-- An interface the SDK binds. -/
inductive Interface where
  | engineClient
  | clientDll
  | clientEntityList
  | modelInfo
  | engineTrace
  | cvar
  | materialSystem
  | renderView
  | modelRender
  | studioRender
  | physics
  | physicsCollision
  | gameEventManager
  | inputSystem
  | panel
  | surface
  | engineVgui
  | engineServer
  | playerInfoManager
  | serverGameDll
deriving DecidableEq, Repr

namespace Interface

/-- Every interface, in table order. -/
def all : List Interface :=
  [engineClient, clientDll, clientEntityList, modelInfo, engineTrace, cvar, materialSystem,
    renderView, modelRender, studioRender, physics, physicsCollision, gameEventManager,
    inputSystem, panel, surface, engineVgui, engineServer, playerInfoManager, serverGameDll]

/-- The table name of an interface. -/
def name : Interface → String
  | engineClient => "EngineClient"
  | clientDll => "ClientDLL"
  | clientEntityList => "ClientEntityList"
  | modelInfo => "ModelInfo"
  | engineTrace => "EngineTrace"
  | cvar => "Cvar"
  | materialSystem => "MaterialSystem"
  | renderView => "RenderView"
  | modelRender => "ModelRender"
  | studioRender => "StudioRender"
  | physics => "Physics"
  | physicsCollision => "PhysicsCollision"
  | gameEventManager => "GameEventManager"
  | inputSystem => "InputSystem"
  | panel => "Panel"
  | surface => "Surface"
  | engineVgui => "EngineVGui"
  | engineServer => "EngineServer"
  | playerInfoManager => "PlayerInfoManager"
  | serverGameDll => "ServerGameDLL"

/-- The module that serves an interface. -/
def module : Interface → String
  | engineClient | modelInfo | engineTrace | renderView | modelRender | gameEventManager
  | engineVgui | engineServer => "engine"
  | clientDll | clientEntityList => "client"
  | cvar => "vstdlib"
  | materialSystem => "materialsystem"
  | studioRender => "studiorender"
  | physics | physicsCollision => "vphysics"
  | inputSystem => "inputsystem"
  | panel => "vgui2"
  | surface => "vguimatsurface"
  | playerInfoManager | serverGameDll => "server"

/-- The version string an interface is requested by. -/
def version : Interface → String
  | engineClient => "VEngineClient014"
  | clientDll => "VClient017"
  | clientEntityList => "VClientEntityList003"
  | modelInfo => "VModelInfoClient006"
  | engineTrace => "EngineTraceClient003"
  | cvar => "VEngineCvar004"
  | materialSystem => "VMaterialSystem082"
  | renderView => "VEngineRenderView014"
  | modelRender => "VEngineModel016"
  | studioRender => "VStudioRender025"
  | physics => "VPhysics031"
  | physicsCollision => "VPhysicsCollision007"
  | gameEventManager => "GAMEEVENTSMANAGER002"
  | inputSystem => "InputSystemVersion001"
  | panel => "VGUI_Panel009"
  | surface => "VGUI_Surface030"
  | engineVgui => "VEngineVGui001"
  | engineServer => "VEngineServer023"
  | playerInfoManager => "PlayerInfoManager002"
  | serverGameDll => "ServerGameDLL012"

/-- The version as passed to a factory: its bytes and a closing NUL. -/
def versionBytes (i : Interface) : List UInt8 := i.version.toUTF8.toList ++ [0]

/-- Loading fails without this interface. -/
def required : Interface → Bool
  | engineClient | clientDll | clientEntityList | modelInfo | cvar => true
  | _ => false

/-- The name of the slot that holds the interface among the engine's globals. -/
def slotName : Interface → String
  | engineClient => "engine_client"
  | clientDll => "client"
  | clientEntityList => "entity_list"
  | modelInfo => "model_info"
  | engineTrace => "engine_trace"
  | cvar => "cvar"
  | materialSystem => "material_system"
  | renderView => "render_view"
  | modelRender => "model_render"
  | studioRender => "studio_render"
  | physics => "physics"
  | physicsCollision => "physics_collision"
  | gameEventManager => "game_event_manager"
  | inputSystem => "input_system"
  | panel => "panel"
  | surface => "surface"
  | engineVgui => "engine_vgui"
  | engineServer => "engine_server"
  | playerInfoManager => "player_info_manager"
  | serverGameDll => "server_game_dll"

/-- The interface with a table name. -/
def ofName? (s : String) : Option Interface := all.find? (·.name == s)

/-- The modules that serve interfaces, in table order. -/
def modules : List String := (all.map module).eraseDups

/-- The required interfaces, in request order. -/
def requiredOnes : List Interface := all.filter required

/-- The optional interfaces, in request order. -/
def optionalOnes : List Interface := all.filter (!·.required)

end Interface

/-- The version under which a plugin registers its callbacks. -/
def pluginCallbacksVersion : String := "ISERVERPLUGINCALLBACKS003"

end EngineSdk
