import EngineSdk.Session.Netvars
import EngineSdk.StandIn.Modules
import EngineSdk.Sdk.Startup
import EngineSdk.Config.Store

/-!
# Starting the framework

The steps that bring the framework up, each changing the session:

* `installGamedata` reads a gamedata file and installs it, once;
* `initEngine` sets the engine's interfaces, once; `bindGlobalVars` asks the player information
  manager for the global variables block and keeps the pointer when it is not null;
* `sdkInitWith` gathers factories (the supplied ones first, then the exports a module resolver
  finds), requests every interface, initializes the engine with the objects had and binds its
  global variables, requests every table row once more to record the objects, and locates
  every signature of the gamedata in the resolver's modules; `sdkInit` does so over the loaded
  modules;
* `pluginLoad` is what the plugin does when the game loads it: it reads the framework's settings
  (writing the defaults when the file is missing, falling back to them on any error), takes the
  installed gamedata or installs the configured file (an empty gamedata when that fails),
  starts the SDK (content when it was started before), and resolves the known network
  variables when the settings ask for it.  A panic makes the load fail; what was done before it
  stays done.

The stand-in factories hand out the object of the table row with their module and the version
asked for, when that row is served, and write `0`; otherwise they answer nothing and write `1`.
Every request is remembered, except those made of a module's export before the host registered
its factory with that module.
-/

namespace EngineSdk.Run

open StandIn

/-- The text of the file at a path relative to the base directory. -/
def readFile (path : String) : Run (Except IoFault String) := do
  pure ((← get).files.readText path)

/-- Reads gamedata from a file and installs it, unless gamedata was installed before. -/
def installGamedata (path : String) : Run (Except GamedataError Gamedata) := do
  let g := match ← readFile path with
    | .ok text => Gamedata.load text
    | .error f => .error (.io f.message)
  match g with
  | .error e => pure (.error e)
  | .ok g =>
    if (← get).gamedata.isSome then pure (.error .alreadyInitialized)
    else do
      modify fun s => { s with gamedata := some g }
      pure (.ok g)

/-- The loaded module a name picks. -/
def loaded? (name : String) : Run (Option LoadedModule) := do
  pure ((← get).modules.find? fun m => moduleFileName m.name == moduleFileName name)


/-- The answer of a stand-in factory for `module` to a version. -/
def serveVersion (w : World) (module : String) (version : String) : Offer Ptr :=
  match Interface.all.find? (fun i => i.module == module && i.version == version) with
  | some i => if w.serve.contains i then ⟨some (.iface i), some 0⟩ else ⟨none, some 1⟩
  | none => ⟨none, some 1⟩

/-- The factory of a module: the host's when `served`, otherwise one that hands out nothing. -/
def standInFactory (w : World) (module : String) (supplied served : Bool) : Factory Ptr :=
  if served then ⟨module, supplied, serveVersion w module⟩
  else ⟨module, supplied, fun _ => ⟨none, some 1⟩⟩

/-- The loaded modules as a module resolver: a module's code, for signature scans, and its
`CreateInterface` export. -/
def nativeResolver : Run (ModuleResolver Ptr) := do
  let s ← get
  let pick (name : String) : Option LoadedModule :=
    s.modules.find? fun m => moduleFileName m.name == moduleFileName name
  pure ⟨fun name => (pick name).map fun m => ⟨m.name, codeStart, codeBytes⟩,
    fun name => (pick name).map fun m => standInFactory s.world m.name false m.registered⟩

/-- Remembers the requests made of factories, except those of unregistered exports. -/
def logQueries (qs : List Query) : Run Unit := do
  let s ← get
  let registered (m : String) : Bool :=
    s.modules.any fun l => l.name == m && l.registered
  let kept := qs.filter fun q => q.supplied || registered q.module
  let calls : List FactoryCall := kept.map fun q => ⟨q.module, q.version, q.supplied⟩
  onWorld (modify fun w => { w with factoryCalls := w.factoryCalls ++ calls })

/-- Runs an interface request, remembering the requests it made. -/
def loading {α : Type} (l : Loading α) : Run (Except InterfaceError α) := do
  let (r, qs) := l.run.run []
  logQueries qs
  pure r

/-- Sets the engine's interfaces; fails when they were set before. -/
def initEngine (g : EngineGlobals) : Run (Except InterfaceError Unit) := do
  if (← get).engine.isSome then pure (.error .alreadyInitialized)
  else do
    modify fun s => { s with engine := some g }
    pure (.ok ())

/-- Points the engine at a global variables block; a null pointer changes nothing. -/
def setGlobalVars (g : Option GlobalVars) : Run Unit :=
  match g with
  | some v => modify fun s => { s with engine := s.engine.map fun e => { e with globalVars := some v } }
  | none => pure ()

/-- Clears the engine's global variables pointer. -/
def clearGlobalVars : Run Unit :=
  modify fun s => { s with engine := s.engine.map fun e => { e with globalVars := none } }

/-- Asks the player information manager for the global variables block and keeps its pointer:
whether a pointer was had. -/
def bindGlobalVars : Run Bool := do
  match ← service? .playerInfoManager with
  | none => pure false
  | some pim =>
    match ← call pim "IPlayerInfoManager::GetGlobalVars" 1 [] with
    | none => pure false
    | some o =>
      match o.result.asVars with
      | none => pure false
      | some v => do
        setGlobalVars (some v)
        pure true

/-- The engine's interfaces built from the stand-in objects: the required ones always, the
optional ones when served. -/
def directGlobals : Run EngineGlobals := do
  let w := (← get).world
  let present := Interface.requiredOnes ++ Interface.optionalOnes.filter w.serve.contains
  pure ⟨present.map fun i => (i, .iface i), none⟩

/-- Requests a table row once more: the row with its object, when its module's factory
serves it. -/
def recordRow (fs : ModuleFactories Ptr) (i : Interface) : Run (Option (Interface × Ptr)) := do
  match fs.get? i.module with
  | none => pure none
  | some f =>
    match ← loading (f.get i.versionBytes) with
    | .ok p => pure (some (i, p))
    | .error _ => pure none

/-- Requests every table row once more, recording the objects had. -/
def recordInterfaces (fs : ModuleFactories Ptr) : Run (List (Interface × Ptr)) :=
  Interface.all.filterMapM (recordRow fs)

/-- Locates every signature of the gamedata in the modules of a resolver. -/
def resolveSignatures (r : ModuleResolver Ptr) (g : Gamedata) : Run Resolution :=
  match g.resolveAll r.module with
  | .ok res => pure res
  | .error p => throw p

/-- Starts the SDK with the gamedata `g`, the module resolver `r` and the factories the engine
supplied. -/
def sdkInitWith (r : ModuleResolver Ptr) (g : Gamedata) (supplied : ModuleFactories Ptr) :
    Run (Except SdkError SdkRecord) := do
  if (← get).sdk.isSome then return .error .alreadyInitialized
  let fs := ((r.collect supplied).run []).1
  match ← loading fs.load with
  | .error e => return .error (.interface e)
  | .ok set =>
    match ← initEngine ⟨set.objects, none⟩ with
    | .error e => return .error (.interface e)
    | .ok () =>
      let _ ← bindGlobalVars
      let interfaces ← recordInterfaces fs
      let res ← resolveSignatures r g
      let record : SdkRecord :=
        ⟨res.addresses.map (fun (n, m, off) => (n, Ptr.code m off)), interfaces, res.failures⟩
      modify fun s => { s with sdk := some record }
      return .ok record

/-- Starts the SDK with the gamedata `g` over the loaded modules, with the supplied factories. -/
def sdkInit (g : Gamedata) (supplied : List (Factory Ptr)) : Run (Except SdkError SdkRecord) := do
  sdkInitWith (← nativeResolver) g (supplied.foldl ModuleFactories.insert .empty)

/-- The factory the engine supplies for a module. -/
def suppliedFactory (module : String) : Run (Factory Ptr) := do
  pure (standInFactory (← get).world module true true)

/-- The framework's settings file, read or created; the defaults when that fails. -/
def loadCoreConfig : Run CoreConfig := do
  let s ← get
  let (r, files) := CoreConfig.format.loadOrCreate s.files Layout.core
  set { s with files := files }
  match r with
  | .ok c => pure c
  | .error (.error _) => pure CoreConfig.default
  | .error (.panic p) => throw p

/-- The gamedata a load starts the SDK with: the installed gamedata, else the configured file
installed, else an empty gamedata. -/
def pluginGamedata (config : CoreConfig) : Run Gamedata := do
  match (← get).gamedata with
  | some g => pure g
  | none =>
    match ← installGamedata (config.gamedataFile "") with
    | .ok g => pure g
    | .error _ => pure Gamedata.empty

/-- The body of the plugin's load; a panic escapes it. -/
def pluginLoadSteps (supplied : List (Factory Ptr)) : Run Bool := do
  let config ← loadCoreConfig
  let g ← pluginGamedata config
  match ← sdkInit g supplied with
  | .ok _ | .error .alreadyInitialized =>
    if config.prefetchNetvars then
      let _ ← prefetchNetvars
    pure true
  | .error _ => pure false

/-- The plugin's load, with the factories the game passes: whether it succeeded. -/
def pluginLoad (supplied : List (Factory Ptr)) : Run Bool :=
  tryCatch (pluginLoadSteps supplied) fun _ => pure false

/-- Shuts the framework down: listeners and cached offsets are dropped and the global variables
pointer is cleared. -/
def shutdown : Run Unit := do
  modify fun s => { s with listeners := s.listeners.clear, cache := Netvar.OffsetCache.empty }
  clearGlobalVars

end EngineSdk.Run
