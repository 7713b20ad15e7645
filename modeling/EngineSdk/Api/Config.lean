import EngineSdk.Api.Basic
import EngineSdk.Config.Core
import EngineSdk.Host.Module

/-!
# Requests on the configuration

Parsing and writing the core configuration, the paths derived from it, and the module
helpers that sit beside it.  A configuration given as an argument is a JSON object whose
members override the defaults.
-/

namespace EngineSdk.Api

/-- A configuration as JSON. -/
def configJson (c : CoreConfig) : Json :=
  .obj [("gamedata_path", .str c.gamedataPath), ("log_level", .str c.logLevel),
    ("prefetch_netvars", .bool c.prefetchNetvars), ("version", Json.int c.version)]

/-- A configuration error as an answer. -/
def configFail {α : Type} (e : ConfigError) : Reply α := .error ⟨e.kind, e.message⟩

/-- The answer for a configuration result. -/
def orConfig {α : Type} : Except ConfigError α → Reply α
  | .ok a => .ok a
  | .error e => configFail e

/-- The answer for a configuration result that may also abort. -/
def orFailure {α : Type} : Except (Failure ConfigError) α → Reply α
  | .ok a => .ok a
  | .error (.error e) => configFail e
  | .error (.panic p) => aborted p

/-- A 32-bit unsigned number argument. -/
def u32NatIn (j : Json) : Reply Nat := do
  let n ← natIn j
  if n < Nat.pow 2 32 then pure n else refuse "value out of u32 range"

/-- A configuration argument: null for the defaults, or an object overriding some of them. -/
def configIn (j : Json) : Reply CoreConfig :=
  match j with
  | .null => pure CoreConfig.default
  | .obj _ => do
    let d := CoreConfig.default
    pure ⟨← optIn j "version" d.version u32NatIn, ← optIn j "log_level" d.logLevel strIn,
      ← optIn j "gamedata_path" d.gamedataPath strIn,
      ← optIn j "prefetch_netvars" d.prefetchNetvars boolIn⟩
  | _ => refuse "bad config"

/-- The text of a file argument: absent or null for a missing file. -/
def fileIn (req : Json) : Reply (Option String) :=
  match req.get? "content" with
  | none | some .null => pure none
  | some v => do pure (some (← strIn v))

/-- A configuration and the file's text afterwards. -/
def loadedJson (r : CoreConfig × String) : Json :=
  .obj [("config", configJson r.1), ("file", .str r.2)]

/-- The answer to a configuration request. -/
def configOp (req : Json) (fn : String) : Reply Json := do
  match fn with
  | "parse" => return configJson (← orConfig (CoreConfig.read (← strIn (← need req "toml"))))
  | "default" => return configJson CoreConfig.default
  | "to_toml" => return .str (← ofPanic (← configIn ((req.get? "config").getD .null)).toToml)
  | "gamedata_file" =>
    let c ← configIn ((req.get? "config").getD .null)
    return .str (c.gamedataFile (← strIn (← need req "base")))
  | "base_dir_from_binary" => return .str (← orConfig (baseDirFromBinary (← strIn (← need req "path"))))
  | "load_or_create" => return loadedJson (← orFailure (CoreConfig.loadOrCreate (← fileIn req)))
  | "read_from" =>
    let file ← fileIn req
    let c ← orConfig (CoreConfig.readFrom file)
    return loadedJson (c, file.getD "")
  | "vfunc_index" =>
    let _ ← strIn (← need req "key")
    return Json.int (← natIn (← need req "default"))
  | "module_file_name" => return .str (moduleFileName (← strIn (← need req "module")))
  | "module_contains" =>
    let r : ModuleRange := ⟨← natIn (← need req "base"), ← natIn (← need req "size")⟩
    return .bool (← ofPanic (r.contains (← natIn (← need req "address"))))
  | _ => refuse "unknown config fn"

end EngineSdk.Api
