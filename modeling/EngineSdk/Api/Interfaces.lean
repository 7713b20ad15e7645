import EngineSdk.Api.Basic
import EngineSdk.Interface.Factory

/-!
# Requests on interface factories

A request describes stand-in factories, one per module: the versions each serves, with the
code it writes back, and the code it writes for every other version.
-/

namespace EngineSdk.Api

/-- An interface error as answered. -/
def interfaceFail (e : InterfaceError) : Json := failJson ⟨e.kind, e.message⟩

/-- A stand-in factory of a module, from its description. -/
def fakeFactory (m : String) (spec : Json) : Reply (Factory String) := do
  let miss ← match spec.get? "miss_code" with
    | some c => i32In "miss_code" c
    | none => pure 1
  let served ← match ← need spec "serves" with
    | .arr vs => vs.mapM fun v => do pure (← strIn v, (0 : Int))
    | .obj vs => vs.mapM fun (k, c) => do pure (k, ← i32In "code" c)
    | _ => refuse "serves must be a list or an object"
  pure ⟨m, false, fun v => match served.lookup v with
    | some c => ⟨some m, some c⟩
    | none => ⟨none, some miss⟩⟩

/-- A module name the interface table uses. -/
def knownModule (m : String) : Reply String :=
  if Interface.modules.contains m then pure m else refuse "unknown module"

/-- An `interfaces` request: interfaces requested from stand-in factories. -/
def interfacesOp (req : Json) : Reply Json := do
  let specs ← match ← need req "modules" with
    | .obj ms => ms.mapM fun (m, spec) => do fakeFactory (← knownModule m) spec
    | _ => refuse "modules must be an object"
  let fs : ModuleFactories String := specs.foldl ModuleFactories.insert .empty
  let module : Reply String := do knownModule (← strIn (← need req "module"))
  let version : Reply (List UInt8) := do bytesIn (← need req "version")
  let done (r : Json × List Query) : Json :=
    .obj [("result", r.1), ("calls", .arr (r.2.map fun q => .arr [.str q.module, .str q.version]))]
  let outcome {α : Type} (f : α → Json) (l : Loading α) : Json × List Query :=
    match l.run.run [] with
    | (.ok a, qs) => (f a, qs)
    | (.error e, qs) => (interfaceFail e, qs)
  match ← strIn (← need req "fn") with
  | "load" => pure (done (outcome (fun s => .obj (
      Interface.optionalOnes.map (fun i => (i.slotName, .bool (s.has i))) ++
      [("optional_count", Json.int s.optionalCount),
        ("engine_client_from", optJson .str (s.get? .engineClient)),
        ("cvar_from", optJson .str (s.get? .cvar)),
        ("global_vars_set", .bool false), ("bind_global_vars", .bool false),
        ("global_vars_after_bind", .bool false), ("engine_initialized", .bool false),
        ("is_main_thread", .bool false)])) fs.load))
  | "get" =>
    let m ← module
    let f := (fs.get? m).getD ⟨m, false, fun _ => ⟨none, none⟩⟩
    pure (done (outcome (fun o => .obj [("from", .str o), ("factory_name", .str f.module)])
      (f.get (← version))))
  | "require" => pure (done (outcome .str (fs.require (← module) (← version))))
  | "optional" =>
    let (o, qs) := (fs.optional (← module) (← version)).run []
    pure (done (optJson .str o, qs))
  | "count" => pure (done (.obj [("len", Json.int fs.size), ("is_empty", .bool (fs.size == 0))], []))
  | _ => refuse "unknown fn"

end EngineSdk.Api
