import EngineSdk.Api.EngineFiles

/-!
# Starting a session

A session starts from the stand-in engine and the files of the request.  The boot then loads
stand-in modules (all ten unless the boot names some, none when it starts nothing), registers
the host's factory with each unless told not to, may install a gamedata file, and starts the
framework in one of three ways:

* `direct` sets the engine's interfaces from the stand-in objects and binds the global
  variables;
* `sdk` starts the SDK with a gamedata (empty, the installed one, or a given text) and the
  factories the engine supplies;
* `plugin` does what the game does when it loads the plugin.

The same starts are steps of their own later on.  An unknown mode or module refuses the whole
request, as a bad stand-in object does.
-/

namespace EngineSdk.Api

open StandIn

/-- Where the SDK's gamedata comes from. -/
inductive GamedataSource where
  /-- A gamedata with no entries. -/
  | empty
  /-- The installed gamedata. -/
  | installed
  /-- Gamedata read from a JSON text. -/
  | text (s : String)

/-- The gamedata source of a request: absent or null for none, `global` for the installed one,
any other string as JSON text, and any other value as the JSON it is. -/
def gamedataSourceIn (j : Json) : GamedataSource :=
  match j.get? "gamedata" with
  | none | some .null => .empty
  | some (.str "global") => .installed
  | some (.str s) => .text s
  | some v => .text (Json.render v)

/-- The modules whose factories the engine supplies. -/
def suppliedIn (j : Json) : Reply (List String) := do
  let names ← optIn j "supplied" ["engine", "server"] fun v => do (← arrIn v).mapM strIn
  names.mapM fun n =>
    if n == "engine" || n == "server" then pure n else refuse "unknown supplied factory"

/-- The factories the game passes to the plugin's load: the engine's unless
`interface_factory` is false, the server's unless `game_server_factory` is false. -/
def pluginFactoriesIn (j : Json) : Reply (List String) := do
  let engine ← optIn j "interface_factory" true boolIn
  let server ← optIn j "game_server_factory" true boolIn
  pure ((if engine then ["engine"] else []) ++ (if server then ["server"] else []))

/-- How the boot starts the framework. -/
inductive Start where
  /-- Nothing is started. -/
  | idle
  /-- The engine's interfaces are set directly; the global variables are bound when `bind`. -/
  | direct (bind : Bool)
  /-- The SDK is started. -/
  | sdk (source : GamedataSource) (supplied : List String)
  /-- The plugin is loaded with these factories. -/
  | plugin (supplied : List String)

/-- What a boot does. -/
structure BootPlan where
  /-- The modules the boot names, when it names some. -/
  modules : Option (List String)
  /-- The host's factory is registered with each module. -/
  register : Bool
  /-- A gamedata file to install first. -/
  install : Option String
  start : Start

/-- The start a boot object asks for. -/
def startIn (b : Json) : Reply Start := do
  match ← optIn b "mode" "none" strIn with
  | "none" => pure .idle
  | "direct" => pure (.direct (← optIn b "bind" true boolIn))
  | "sdk" => pure (.sdk (gamedataSourceIn b) (← suppliedIn b))
  | "plugin" => pure (.plugin (← pluginFactoriesIn b))
  | _ => refuse "unknown boot mode"

/-- The plan of a boot object; null boots nothing. -/
def bootPlanIn (b : Json) : Reply BootPlan := do
  let start ← startIn b
  let modules ← match b.get? "modules" with
    | none | some .null => pure none
    | some v => do
      let names ← (← arrIn v).mapM strIn
      names.forM fun n =>
        if (moduleNamed? n).isSome then pure () else refuse "unknown stand-in module"
      pure (some names)
  pure ⟨modules, ← optIn b "register" true boolIn,
    ← optIn b "install_gamedata" none fun v => do pure (some (← filePathIn (← strIn v))), start⟩

/-- The modules a boot loads. -/
def BootPlan.moduleList (p : BootPlan) : List String :=
  match p.modules, p.start with
  | some names, _ => names
  | none, .idle => []
  | none, _ => moduleNames

/-- The boot answer lists the modules when it names some or starts something. -/
def BootPlan.showsModules (p : BootPlan) : Bool :=
  match p.modules, p.start with
  | some _, _ => true
  | none, .idle => false
  | none, _ => true

/-- A fresh session over a stand-in engine and files. -/
def Session.fresh (w : World) (files : FileTree) : Session where
  world := w
  files := files
  modules := []
  engine := none
  sdk := none
  gamedata := none
  listeners := ListenerRegistry.empty
  cache := Netvar.OffsetCache.empty
  fieldSlots := []
  boneCache := none
  thunks := []
  fired := []
  conVarCalls := []

/-- Installs a gamedata file: its counts, or the error. -/
def installStart (path : String) : Run Json := do
  pure (match ← Run.installGamedata path with
    | .ok g => gamedataCountsJson g
    | .error e => gamedataErrorJson e)

/-- Sets the engine's interfaces from the stand-in objects and, when `bind`, binds the global
variables. -/
def directStart (bind : Bool) : Run Json := do
  match ← Run.initEngine (← Run.directGlobals) with
  | .error e => pure (.obj [("init_engine", errorJson e.kind e.message)])
  | .ok () =>
    if bind then
      pure (.obj [("init_engine", .str "ok"), ("bind_global_vars", .bool (← Run.bindGlobalVars))])
    else pure (.obj [("init_engine", .str "ok")])

/-- Starts the SDK: its record, or the error. -/
def sdkStart (source : GamedataSource) (supplied : List String) : Run Json := do
  let g : Except GamedataError Gamedata ← match source with
    | .empty => pure (.ok Gamedata.empty)
    | .installed => pure (match (← get).gamedata with
      | some g => .ok g
      | none => .error .notInitialized)
    | .text s => pure (Gamedata.load s)
  match g with
  | .error e => pure (gamedataErrorJson e)
  | .ok g =>
    let fs ← supplied.mapM Run.suppliedFactory
    pure (match ← Run.sdkInit g fs with
      | .ok r => sdkJson r
      | .error e => sdkErrorJson e)

/-- Loads the plugin with the supplied factories: whether it loaded, and the state after. -/
def pluginStart (supplied : List String) : Run Json := do
  let fs ← supplied.mapM Run.suppliedFactory
  let loaded ← Run.pluginLoad fs
  let s ← get
  pure (.obj [("load", .bool loaded), ("engine", .bool s.engine.isSome),
    ("sdk", optJson sdkJson s.sdk), ("gamedata", optJson gamedataCountsJson s.gamedata),
    ("cache_size", Json.int s.cache.size)])

/-- Runs a start. -/
def Start.run : Start → Run (Option (String × Json))
  | .idle => pure none
  | .direct bind => do pure (some ("direct", ← directStart bind))
  | .sdk source supplied => do pure (some ("sdk_init", ← sdkStart source supplied))
  | .plugin supplied => do pure (some ("plugin", ← pluginStart supplied))

/-- Runs a boot: loads the modules, installs gamedata, starts the framework. -/
def BootPlan.run (p : BootPlan) : Run Json := do
  let names := p.moduleList
  let loaded : List LoadedModule := names.map fun n => ⟨(moduleNamed? n).getD n, p.register⟩
  modify fun s => { s with modules := loaded }
  let shown := if p.showsModules then [("modules", Json.arr (names.map .str))] else []
  let installed ← match p.install with
    | some path => do pure [("install_gamedata", ← installStart path)]
    | none => pure []
  let started ← p.start.run
  pure (.obj (shown ++ installed ++ started.toList))

end EngineSdk.Api
