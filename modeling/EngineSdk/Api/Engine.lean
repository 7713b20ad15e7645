import EngineSdk.Api.EngineBoot
import EngineSdk.Api.EngineEntities

/-!
# Sessions on a stand-in engine

An `engine` request builds the stand-in engine from its `fakes`, writes its `files` below the
base directory, boots, and runs its steps in order on one session.  A bad stand-in object, file
or boot refuses the whole request; after that every step has an answer of its own:

* `result` is the step's value, its refusal, or the panic that stopped it;
* `fired` lists the listener calls the step made, sorted by listener id;
* `convar_calls` lists the console variable setter calls it made.

The last two appear only when the step made such calls.  A panic stops only its step: what the
step changed before it stays changed, and the next step runs.
-/

namespace EngineSdk.Api

open StandIn Entity

/-- A file entry of a request: where, and what to put there. -/
def fileEntryIn (entry : String × Json) : Reply (String × FileContent) := do
  pure (← filePathIn entry.1, ← fileContentIn entry.2)

/-- Writes the request's files into a tree, in order. -/
def writeFiles (t : FileTree) : List (String × FileContent) → Except IoFault FileTree
  | [] => pure t
  | (p, c) :: rest => do writeFiles (← putContent t p c) rest

/-- The files a request starts with. -/
def filesIn (req : Json) : Reply FileTree := do
  let entries ← match req.get? "files" with
    | none | some .null => pure []
    | some j => j.entries.mapM fileEntryIn
  match writeFiles FileTree.empty entries with
  | .ok t => pure t
  | .error f => .error ⟨"io", f.message⟩

/-- The steps that start the framework again, read from a step as from a boot. -/
def sdkInitStep (step : Json) : StepM Json := do
  sdkStart (gamedataSourceIn step) (← ask (suppliedIn step))

/-- A `global_vars` step: the given block or the engine's, with tick and time conversions. -/
def globalVarsStep (step : Json) : StepM Json := do
  let ticks ← optArg step "ticks" [] i32List
  let times ← optArg step "times" [] fun j => do (← arrIn j).mapM f32In
  let vars ← match step.get? "vars" with
    | none | some .null => pure ((← get).engine.bind (·.globalVars))
    | some j => do pure (some (← ask (globalVarsIn j)))
  pure (optJson (fun g => globalVarsJson g ticks times) vars)

/-- Whether the engine has a global variables pointer. -/
def globalVarsSet : StepM Bool := do
  pure (((← get).engine.bind (·.globalVars)).isSome)

/-- A `find_signature` step: a signature located in a loaded module's code. -/
def findSignatureStep (step : Json) : StepM Json := do
  let module ← argOf step "module" strIn
  let some m ← Run.loaded? module | refuseStep "module not loaded"
  let name ← argOf step "name" strIn
  match (← get).gamedata with
  | none => pure (gamedataErrorJson .notInitialized)
  | some g =>
    match g.locate name codeBytes codeBytes.length with
    | .ok off => pure (.str (codeText m.name (codeStart + off)))
    | .error (.error e) => pure (gamedataErrorJson e)
    | .error (.panic p) => throwThe Panic p

/-- Binds a function thunk to an address. -/
def setThunk (name : String) (p : Ptr) : StepM Unit :=
  modify fun s => { s with thunks := (s.thunks.filter (·.1 != name)) ++ [(name, some p)] }

/-- The address a function thunk is bound to. -/
def thunkAddress (name : String) : StepM (Option Ptr) := do
  pure (((← get).thunks.lookup name).join)

/-- A `func_thunk` step: a thunk is bound on request to the host's function, and otherwise
to the address the SDK located for its name, once. -/
def funcThunkStep (step : Json) : StepM Json := do
  let name ← argOf step "name" strIn
  let before := (← thunkAddress name).isSome
  let bound ← if flagIn step "bind" then do
      if !before then setThunk name .hostFunction
      pure [("bind", Json.bool !before)]
    else pure []
  let got ← match ← thunkAddress name with
    | some p => pure (some p)
    | none =>
      match (← get).sdk.bind (·.addresses.lookup name) with
      | some p => do
        setThunk name p
        pure (some p)
      | none => pure none
  let after := (← thunkAddress name).isSome
  let roundTrip := if (step.get? "addr").isSome then [("addr_roundtrip", Json.bool true)] else []
  pure (.obj ([("name", .str name), ("resolved_before", .bool before)] ++ bound ++
    [("get", optJson codeJson got), ("resolved_after", .bool after)] ++ roundTrip))

/-- A `vfunc_thunk` step: the slot of a method key and whether the object has a function
there. -/
def vfuncThunkStep (step : Json) : StepM Json := do
  let key ← argOf step "key" strIn
  let index ← Run.vfuncIndex key (← argOf step "default" natIn)
  let w := (← get).world
  let found := match step.get? "object" with
    | some (.str n) =>
      match Interface.ofName? n with
      | some i => (w.methodAt (.iface i) index).isSome
      | none => false
    | _ => false
  pure (.obj [("key", .str key), ("index", Json.int index), ("found", .bool found)])

/-- A `module` step: a loaded module, its export, or a module's file name. -/
def moduleStep (step : Json) : StepM Json := do
  let name ← argOf step "name" strIn
  match ← argOf step "fn" strIn with
  | "module" =>
    match ← Run.loaded? name with
    | none => pure .null
    | some _ =>
      pure (.obj [("name", .str name), ("size_positive", .bool true),
        ("contains_base", .bool true), ("contains_end", .bool false), ("base_ptr", .bool true),
        ("debug_has_name", .bool true), ("clone_eq", .bool true),
        ("bone_cache_in_first", .bool true)])
  | "export" =>
    match ← Run.loaded? name with
    | none => pure .null
    | some m =>
      match step.get? "version" with
      | none | some .null => pure (.bool true)
      | some v =>
        let version ← ask (strIn v)
        if m.registered then
          let w := (← get).world
          Run.logQueries [⟨m.name, version, false⟩]
          let offer := Run.serveVersion w m.name version
          pure (.obj [("object", optPtrJson offer.object), ("code", optJson Json.int offer.code)])
        else pure (.obj [("object", .null), ("code", Json.int 1)])
  | "file_name" => pure (.str (moduleFileName name))
  | _ => refuseStep "unknown module fn"

/-- An edict argument: a cell index, `foreign`, or null. -/
def edictIn (j : Json) : Reply Ptr :=
  match j with
  | .null => pure .null
  | .str "foreign" => pure .foreign
  | _ => do pure (.edict (← natIn j))

/-- A `plugin` step: a call through the plugin's callback table. -/
def pluginStep (step : Json) : StepM Json := do
  let edict : StepM Ptr := optArg step "edict" .null edictIn
  match ← argOf step "slot" strIn with
  | "load" => pluginStart (← ask (pluginFactoriesIn step))
  | "unload" =>
    Plugin.unload
    let s ← get
    pure (.obj [("engine", .bool s.engine.isSome), ("global_vars", .bool (← globalVarsSet))])
  | "description" => pure (.str Plugin.description)
  | "level_init" => do
    Plugin.levelInit (← optArg step "map" none cstrIn)
    pure .null
  | "server_activate" => do
    Plugin.serverActivate (← optArg step "max" 0 (i32In "max"))
    pure .null
  | "game_frame" => do
    Plugin.gameFrame (← optArg step "simulating" false boolIn)
    pure .null
  | "level_shutdown" => do
    Plugin.levelShutdown
    pure .null
  | "client_active" => do
    Plugin.clientActive (← edict)
    pure .null
  | "client_disconnect" => do
    Plugin.clientDisconnect (← edict)
    pure .null
  | "client_connect" =>
    pure (.obj [("result", .str "Continue"), ("allow", .bool (← optArg step "allow" true boolIn)),
      ("reject", .str "")])
  | "client_command" | "network_id_validated" => pure (.str "Continue")
  | "pause" | "unpause" | "set_command_client" | "client_fully_connect" | "client_put_in_server"
  | "client_settings_changed" | "on_edict_allocated" | "on_edict_freed"
  | "on_query_cvar_value_finished" => pure .null
  | _ => refuseStep "unknown plugin slot"

/-- A `create_interface` step: the plugin's export asked for a name. -/
def createInterfaceStep (step : Json) : StepM Json := do
  let (found, code) := Plugin.createInterface (← optArg step "name" none cstrIn)
  let written ← optArg step "ret" true boolIn
  pure (.obj [("plugin", .bool found), ("null", .bool !found),
    ("code", Json.int (if written then code else -7))])

/-- The steps on the engine, the SDK and the gamedata. -/
def stateStep (op : String) (step : Json) : Option (StepM Json) :=
  match op with
  | "engine_state" => some do pure (engineStateJson (← get).engine)
  | "engine" => some do
    match (← get).engine with
    | some _ => pure (.str "ok")
    | none => throwThe Panic (.abort "Engine not initialized")
  | "global_vars" => some (globalVarsStep step)
  | "set_global_vars" => some do
    let vars ← match step.get? "vars" with
      | none | some .null => pure none
      | some j => do pure (some (← ask (globalVarsIn j)))
    Run.setGlobalVars vars
    pure (.bool (← globalVarsSet))
  | "clear_global_vars" => some do
    Run.clearGlobalVars
    pure (.bool (← globalVarsSet))
  | "bind_global_vars" => some do pure (.bool (← Run.bindGlobalVars))
  | "init_engine" => some do directStart (← optArg step "bind" true boolIn)
  | "sdk" => some do pure (optJson sdkJson (← get).sdk)
  | "sdk_panic" => some do
    match (← get).sdk with
    | some r => pure (sdkJson r)
    | none => throwThe Panic (.abort "SDK manager not initialized")
  | "sdk_init" => some (sdkInitStep step)
  | "sdk_address" => some do
    let name ← argOf step "name" strIn
    pure (optJson codeJson ((← get).sdk.bind (·.addresses.lookup name)))
  | "install_gamedata" => some do installStart (← ask (filePathIn (← argOf step "path" strIn)))
  | "gamedata" => some do pure (optJson gamedataJson (← get).gamedata)
  | "vfunc_index" => some do
    pure (Json.int (← Run.vfuncIndex (← argOf step "key" strIn) (← argOf step "default" natIn)))
  | "find_signature" => some (findSignatureStep step)
  | "func_thunk" => some (funcThunkStep step)
  | "vfunc_thunk" => some (vfuncThunkStep step)
  | "module" => some (moduleStep step)
  | _ => none

/-- The steps on the plugin and its listeners. -/
def pluginSideStep (op : String) (step : Json) : Option (StepM Json) :=
  match op with
  | "register" => some do
    let kind ← argOf step "kind" listenerKindIn
    let s ← get
    let (key, r) := s.listeners.register kind
    set { s with listeners := r }
    pure (Json.int key)
  | "listener_count" => some do pure (Json.int (← get).listeners.count)
  | "shutdown" => some do
    Run.shutdown
    let s ← get
    pure (.obj [("listeners", Json.int s.listeners.count), ("cache", Json.int s.cache.size)])
  | "plugin" => some (pluginStep step)
  | "create_interface" => some (createInterfaceStep step)
  | "cfg" => some (configStep step)
  | "log" => some do pure (logJson (← get).world)
  | _ => none

/-- The steps on the engine's objects and on entities. -/
def wrapperStep (op : String) (step : Json) : Option (StepM Json) :=
  match op with
  | "ec" => some (engineClientStep step)
  | "nc" => some (netChannelStep step)
  | "mat" => some (materialStep step)
  | "mi" => some (modelInfoStep step)
  | "panel" => some (panelStep step)
  | "phys" => some (physicsStep step)
  | "cv" => some (conVarStepOn step)
  | "convars" => some do pure (conVarsJson (← get).world.conVars)
  | "rp" => some (recvpropStep step)
  | "el" => some (entityListOn step)
  | "ent" => some (entityStep step)
  | "get_player" => some do pure (optPtrJson (← player (← argOf step "index" (i32In "index"))))
  | "local_player" => some do pure (optPtrJson (← localPlayer))
  | "players" => some do pure (.arr ((← players).map ptrJson))
  | "handle_get" => some (handleGetStep step)
  | "class_name" => some (classNameStep step)
  | _ => none

/-- The value of one step. -/
def stepValue (step : Json) : StepM Json :=
  match step.get? "op" with
  | some (.str op) =>
    match stateStep op step <|> pluginSideStep op step <|> wrapperStep op step with
    | some s => s
    | none => refuseStep "unknown engine step"
  | _ => refuseStep "step without op"

/-- Runs one step: its answer, with the listener and setter calls it made. -/
def runStep (step : Json) : StateM Session Json := do
  modify fun s => { s with fired := [], conVarCalls := [] }
  let r ← (stepValue step).run.run
  let result := match r with
    | .ok (.ok v) => v
    | .ok (.error f) => failJson f
    | .error p => errorJson "panic" p.message
  let s ← get
  let fired := callsJson s.fired
  let calls := s.conVarCalls.map setterCallJson
  pure (.obj ([("result", result)] ++ (if fired.isEmpty then [] else [("fired", .arr fired)]) ++
    (if calls.isEmpty then [] else [("convar_calls", .arr calls)])))

/-- A value as it reads after a trip through JSON text: the reader's rule for numbers may
move a float to a neighbouring one. -/
def reread (j : Json) : Json :=
  match Json.parse (Json.render j) with
  | .ok v => v
  | .error _ => j

/-- The answer to an `engine` request.  The session's answer is handed on as JSON text and read
back, so its floats are the ones that text reads as. -/
def engineOp (req : Json) : Reply Json := do
  let world ← worldIn (partIn req "fakes")
  let files ← filesIn req
  let plan ← bootPlanIn ((req.get? "boot").getD .null)
  let steps ← optIn req "steps" [] arrIn
  let (booted, s) := (plan.run.run).run (Session.fresh world files)
  let bootJson := match booted with
    | .ok j => j
    | .error p => errorJson "panic" p.message
  let (answers, _) := (steps.mapM runStep).run s
  pure (reread (.obj [("boot", bootJson), ("steps", .arr answers)]))

end EngineSdk.Api
