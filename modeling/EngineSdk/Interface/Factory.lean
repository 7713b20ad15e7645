import EngineSdk.Interface.Table
import EngineSdk.Text.Utf8

/-!
# Interface factories

A module's factory answers a version string with an object, or with nothing and a return code.
The version is passed as bytes that must end in their only NUL; anything else is refused before
the factory is asked.  Every request that reaches a factory is recorded, in order, as a `Query`,
so that a caller can tell which factories were asked for what.

`ModuleFactories.load` makes the loader's own requests, each naming the slot it fills, the module
it asks and the version it asks for: each required one in turn, stopping at the first that cannot
be had, then every optional one, keeping those that are served.  The requests name the same
modules and versions as the interface table, in its order.
-/

namespace EngineSdk

/-- Why an interface could not be had. -/
inductive InterfaceError where
  /-- No factory is known for the module. -/
  | missingFactory (module : String)
  /-- The module's factory does not serve the version; `code` is what it wrote back. -/
  | notFound (version module : String) (code : Int)
  /-- The version bytes do not end in their only NUL; the text is their lossy reading. -/
  | invalidVersionString (text : String)
  /-- The engine's globals were installed before. -/
  | alreadyInitialized
deriving Repr, DecidableEq

/-- The text of an interface error. -/
def InterfaceError.message : InterfaceError → String
  | .missingFactory m => "No factory for module: " ++ m
  | .notFound v m c => m ++ " does not provide " ++ v ++ " (code " ++ toString c ++ ")"
  | .invalidVersionString t => "Invalid version string: " ++ t
  | .alreadyInitialized => "Engine already initialized"

/-- The name of the kind of an interface error. -/
def InterfaceError.kind : InterfaceError → String
  | .missingFactory _ => "MissingFactory"
  | .notFound _ _ _ => "NotFound"
  | .invalidVersionString _ => "InvalidVersionString"
  | .alreadyInitialized => "AlreadyInitialized"

/-- The code a factory writes when it serves the version. -/
def ifaceOk : Int := 0

/-- The code a factory writes when it does not. -/
def ifaceFailed : Int := 1

/-- One request made of a factory: its module, the version asked for, and whether the factory
was supplied by the engine rather than exported by the module. -/
structure Query where
  module : String
  version : String
  supplied : Bool
deriving Repr, DecidableEq

/-- A computation that asks factories for interfaces, keeping the requests in order. -/
abbrev Querying := StateM (List Query)

/-- A request for interfaces that may fail; the requests made so far are kept either way. -/
abbrev Loading := ExceptT InterfaceError Querying

/-- What a factory answers for a version: the object when it has one, and the code it writes
back, when it writes one. -/
structure Offer (ι : Type) where
  object : Option ι
  code : Option Int

/-- A module's interface factory. -/
structure Factory (ι : Type) where
  /-- The module it belongs to. -/
  module : String
  /-- The factory was supplied by the engine rather than exported by the module. -/
  supplied : Bool
  /-- Its answer for each version. -/
  offer : String → Offer ι

/-- The version named by factory bytes: the lossy reading of the bytes before the final NUL,
when that NUL is the only one. -/
def versionText? (bytes : List UInt8) : Option String :=
  match bytes.reverse with
  | 0 :: rest => if rest.contains 0 then none else some (Utf8.decodeLossy rest.reverse)
  | _ => none

namespace Factory

variable {ι : Type}

/-- Asks the factory for the interface of `version`; the code of a refusal is `0` unless the
factory writes one. -/
def get (f : Factory ι) (version : List UInt8) : Loading ι := do
  match versionText? version with
  | none => throw (.invalidVersionString (Utf8.decodeLossy version))
  | some v =>
    modify (· ++ [⟨f.module, v, f.supplied⟩])
    let o := f.offer v
    match o.object with
    | some x => pure x
    | none => throw (.notFound v f.module (o.code.getD 0))

end Factory

/-- The factories of the loaded modules, at most one per module. -/
structure ModuleFactories (ι : Type) where
  factories : List (Factory ι)

namespace ModuleFactories

variable {ι : Type}

/-- No factories. -/
def empty : ModuleFactories ι := ⟨[]⟩

/-- The factory of a module. -/
def get? (fs : ModuleFactories ι) (module : String) : Option (Factory ι) :=
  fs.factories.find? (·.module == module)

/-- Adds a factory, replacing the module's earlier one. -/
def insert (fs : ModuleFactories ι) (f : Factory ι) : ModuleFactories ι :=
  ⟨fs.factories.filter (·.module != f.module) ++ [f]⟩

/-- The number of modules with a factory. -/
def size (fs : ModuleFactories ι) : Nat := fs.factories.length

/-- The interface of `version` from the module's factory, which must exist. -/
def require (fs : ModuleFactories ι) (module : String) (version : List UInt8) : Loading ι :=
  match fs.get? module with
  | none => throw (.missingFactory module)
  | some f => f.get version

/-- The interface of `version` from the module's factory, when both exist. -/
def optional (fs : ModuleFactories ι) (module : String) (version : List UInt8) :
    Querying (Option ι) := do
  match fs.get? module with
  | none => pure none
  | some f =>
    match ← (f.get version).run with
    | .ok x => pure (some x)
    | .error _ => pure none

end ModuleFactories

/-- The interfaces that were had, each with its object, in request order. -/
structure InterfaceSet (ι : Type) where
  objects : List (Interface × ι)

namespace InterfaceSet

variable {ι : Type}

/-- The object of an interface. -/
def get? (s : InterfaceSet ι) (i : Interface) : Option ι := s.objects.lookup i

/-- The interface is present. -/
def has (s : InterfaceSet ι) (i : Interface) : Bool := (s.get? i).isSome

/-- How many optional interfaces are present. -/
def optionalCount (s : InterfaceSet ι) : Nat := (s.objects.filter (!·.1.required)).length

end InterfaceSet

/-- A request of the loader: the interface it fills among the engine's globals, the module whose
factory it asks and the version it asks for. -/
structure InterfaceRequest where
  slot : Interface
  module : String
  version : String
deriving DecidableEq, Repr

/-- The version as passed to a factory: its bytes and a closing NUL. -/
def InterfaceRequest.versionBytes (r : InterfaceRequest) : List UInt8 :=
  r.version.toUTF8.toList ++ [0]

/-- The loader's required requests, in the order it makes them. -/
def loaderRequired : List InterfaceRequest :=
  [⟨.engineClient, "engine", "VEngineClient014"⟩, ⟨.clientDll, "client", "VClient017"⟩,
    ⟨.clientEntityList, "client", "VClientEntityList003"⟩,
    ⟨.modelInfo, "engine", "VModelInfoClient006"⟩, ⟨.cvar, "vstdlib", "VEngineCvar004"⟩]

/-- The loader's optional requests, in the order it makes them. -/
def loaderOptional : List InterfaceRequest :=
  [⟨.engineTrace, "engine", "EngineTraceClient003"⟩,
    ⟨.materialSystem, "materialsystem", "VMaterialSystem082"⟩,
    ⟨.renderView, "engine", "VEngineRenderView014"⟩, ⟨.modelRender, "engine", "VEngineModel016"⟩,
    ⟨.studioRender, "studiorender", "VStudioRender025"⟩, ⟨.physics, "vphysics", "VPhysics031"⟩,
    ⟨.physicsCollision, "vphysics", "VPhysicsCollision007"⟩,
    ⟨.gameEventManager, "engine", "GAMEEVENTSMANAGER002"⟩,
    ⟨.inputSystem, "inputsystem", "InputSystemVersion001"⟩, ⟨.panel, "vgui2", "VGUI_Panel009"⟩,
    ⟨.surface, "vguimatsurface", "VGUI_Surface030"⟩, ⟨.engineVgui, "engine", "VEngineVGui001"⟩,
    ⟨.engineServer, "engine", "VEngineServer023"⟩,
    ⟨.playerInfoManager, "server", "PlayerInfoManager002"⟩,
    ⟨.serverGameDll, "server", "ServerGameDLL012"⟩]

/-- The request a row of the interface table names: its interface, module and version. -/
def Interface.request (i : Interface) : InterfaceRequest := ⟨i, i.module, i.version⟩

namespace ModuleFactories

variable {ι : Type}

/-- Every request of the list, each required. -/
def requireAll (fs : ModuleFactories ι) : List InterfaceRequest → Loading (List (Interface × ι))
  | [] => pure []
  | r :: rs => do
    let x ← fs.require r.module r.versionBytes
    let rest ← fs.requireAll rs
    pure ((r.slot, x) :: rest)

/-- The requests of the list that are served. -/
def optionalAll (fs : ModuleFactories ι) : List InterfaceRequest → Querying (List (Interface × ι))
  | [] => pure []
  | r :: rs => do
    let x ← fs.optional r.module r.versionBytes
    let rest ← fs.optionalAll rs
    pure (match x with
      | some x => (r.slot, x) :: rest
      | none => rest)

/-- Makes every required request, then every optional one. -/
def load (fs : ModuleFactories ι) : Loading (InterfaceSet ι) := do
  let required ← fs.requireAll loaderRequired
  let optional ← fs.optionalAll loaderOptional
  pure ⟨required ++ optional⟩

end ModuleFactories

end EngineSdk
