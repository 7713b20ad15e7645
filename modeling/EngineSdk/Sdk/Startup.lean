import EngineSdk.Interface.Factory
import EngineSdk.Gamedata.Locate

/-!
# Starting the SDK

At startup the SDK gathers a factory for every module of the interface table, requests the
interfaces, and locates every signature of its gamedata.  Factories the engine supplies are
used first; for every table row whose module has none yet, the module resolver is asked for the
module's `CreateInterface` export.  A module that serves several rows is asked once per row
for as long as it has no factory.
-/

namespace EngineSdk

/-- Why the SDK could not start. -/
inductive SdkError where
  | interface (e : InterfaceError)
  | gamedata (e : GamedataError)
  | alreadyInitialized
deriving Repr, DecidableEq

/-- The text of an SDK error. -/
def SdkError.message : SdkError → String
  | .interface e => "Interface error: " ++ e.message
  | .gamedata e => "Gamedata error: " ++ e.message
  | .alreadyInitialized => "SDK manager already initialized"

/-- The name of the kind of an SDK error. -/
def SdkError.kind : SdkError → String
  | .interface _ => "Interface"
  | .gamedata _ => "Gamedata"
  | .alreadyInitialized => "AlreadyInitialized"

/-- Finds loaded modules: their code, and their interface factories. -/
structure ModuleResolver (ι : Type) where
  /-- The image of a loaded module. -/
  module : String → Option ModuleImage
  /-- The `CreateInterface` export of a loaded module. -/
  createInterface : String → Option (Factory ι)

namespace ModuleResolver

variable {ι : Type}

/-- One table row's step of `collect`: asks for the row's module unless it has a factory,
recording the module asked for; an export found is kept as the factory of that module. -/
def collectStep (r : ModuleResolver ι) (fs : ModuleFactories ι) (i : Interface) :
    StateM (List String) (ModuleFactories ι) :=
  match fs.get? i.module with
  | some _ => pure fs
  | none => do
    modify (· ++ [i.module])
    match r.createInterface i.module with
    | some f => pure (fs.insert { f with module := i.module })
    | none => pure fs

/-- The supplied factories, completed from the resolver row by row in table order; the modules
asked for are recorded in order. -/
def collect (r : ModuleResolver ι) (supplied : ModuleFactories ι) :
    StateM (List String) (ModuleFactories ι) :=
  Interface.all.foldlM r.collectStep supplied

/-- Completes the supplied factories and requests every interface through them; the modules
asked for exports are recorded in order, the requests made of factories are dropped. -/
def acquire (r : ModuleResolver ι) (supplied : ModuleFactories ι) :
    StateM (List String) (Except SdkError (InterfaceSet ι)) := do
  let fs ← r.collect supplied
  pure ((fs.load.run.run []).1.mapError .interface)

end ModuleResolver

end EngineSdk
