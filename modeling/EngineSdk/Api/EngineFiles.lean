import EngineSdk.Api.EngineState

/-!
# Files below the base directory

Requests name files by paths relative to the base directory whose first component is
`configs` or `gamedata` and that have no `..` component; the host resolves them as written, so
a `/` or `.` at the end still counts.  A file is written after its parent directories are made;
`\x7b"dir": true\x7d` makes a directory and everything above it, and null deletes what the path
leads to, if anything.  Reading a file answers its text with every byte sequence that is not
UTF-8 replaced.

The `cfg` steps read and write the framework's settings file and a plugin's settings file
(the plugin `oracle_plugin` unless named otherwise) as the framework does.
-/

namespace EngineSdk.Api

/-- The refusal of a path outside the files a request may name. -/
def pathRule : String :=
  "file paths are relative to the base directory, under configs/ or gamedata/, without .."

/-- A path a request may name. -/
def filePathIn (path : String) : Reply String :=
  match Path.components path with
  | first :: rest =>
    if (first == Layout.configs || first == Layout.gamedata) && !rest.contains ".." then pure path
    else refuse pathRule
  | [] => refuse pathRule

/-- What a request puts at a path. -/
inductive FileContent where
  /-- Nothing: whatever is there is deleted. -/
  | absent
  /-- A directory. -/
  | dir
  /-- A file with these bytes. -/
  | bytes (b : List UInt8)

/-- The content of a file entry. -/
def fileContentIn (j : Json) : Reply FileContent :=
  match j with
  | .null => pure .absent
  | .obj _ =>
    match j.get? "dir" with
    | some (.bool true) => pure .dir
    | _ => do pure (.bytes (← bytesIn j))
  | _ => do pure (.bytes (← bytesIn j))

/-- Puts content at a path of the tree. -/
def putContent (t : FileTree) (p : String) : FileContent → Except IoFault FileTree
  | .absent => pure (t.removeAt p)
  | .dir => t.createDirAll p
  | .bytes b => do
    let t ← (Path.parent p).elim (pure t) t.createDirAll
    t.write p b

/-- An input or output failure as answered. -/
def ioJson (f : IoFault) : Json := errorJson "io" f.message

/-- A configuration error as answered. -/
def configErrorJson (e : ConfigError) : Json := errorJson e.kind e.message

/-- A plugin's settings as answered. -/
def pluginSettingsJson (c : PluginSettings) : Json :=
  .obj [("fov", f32Out c.fov), ("name", .str c.name), ("enabled", .bool c.enabled)]

/-- Plugin settings given as an argument: members override the defaults. -/
def pluginSettingsIn (j : Json) : Reply PluginSettings :=
  match j with
  | .null => pure PluginSettings.default
  | .obj _ => do
    let d := PluginSettings.default
    pure ⟨← optIn j "fov" d.fov f32In, ← optIn j "name" d.name strIn,
      ← optIn j "enabled" d.enabled boolIn⟩
  | _ => refuse "bad config"

/-- Loads settings from a file, writing the defaults when it is missing. -/
def loadSettings {α : Type} (fmt : ConfigFormat α) (path : String) (toJson : α → Json) :
    StepM Json := do
  let s ← get
  let (r, files) := fmt.loadOrCreate s.files path
  set { s with files := files }
  match r with
  | .ok c => pure (toJson c)
  | .error (.error e) => pure (configErrorJson e)
  | .error (.panic p) => throwThe Panic p

/-- Saves settings to a file. -/
def saveSettings {α : Type} (fmt : ConfigFormat α) (path : String) (c : α) : StepM Json := do
  let s ← get
  let (files, r) := fmt.saveTo s.files path c
  set { s with files := files }
  match r with
  | .ok () => pure .null
  | .error (.error e) => pure (configErrorJson e)
  | .error (.panic p) => throwThe Panic p

/-- Reads settings again, keeping the given ones when that fails. -/
def reloadSettings {α : Type} (fmt : ConfigFormat α) (path : String) (kept : α)
    (toJson : α → Json) : StepM Json := do
  match fmt.readFrom (← get).files path with
  | .ok c => pure (toJson c)
  | .error e => pure (.obj [("error", configErrorJson e), ("kept", toJson kept)])

/-- A `cfg` step. -/
def configStep (step : Json) : StepM Json := do
  let pluginName ← optArg step "name" "oracle_plugin" strIn
  let pluginPath := Layout.plugin pluginName
  let coreArg : StepM CoreConfig := optArg step "config" CoreConfig.default configIn
  let pluginArg : StepM PluginSettings := optArg step "config" PluginSettings.default pluginSettingsIn
  match ← argOf step "fn" strIn with
  | "paths" =>
    pure (.obj [("binary", .str Layout.binary), ("base_name", .str Layout.baseName),
      ("base", .str (Layout.shown "")), ("configs", .str Layout.configs),
      ("gamedata", .str Layout.gamedata), ("core", .str Layout.core), ("plugin", .str pluginPath)])
  | "core_load" => loadSettings CoreConfig.format Layout.core configJson
  | "core_save" => saveSettings CoreConfig.format Layout.core (← coreArg)
  | "core_reload" => reloadSettings CoreConfig.format Layout.core (← coreArg) configJson
  | "core_gamedata_file" => pure (.str (Layout.shown ((← coreArg).gamedataFile "")))
  | "plugin_load" => loadSettings PluginSettings.format pluginPath pluginSettingsJson
  | "plugin_save" => saveSettings PluginSettings.format pluginPath (← pluginArg)
  | "plugin_reload" => reloadSettings PluginSettings.format pluginPath (← pluginArg) pluginSettingsJson
  | "read" =>
    let p ← ask (filePathIn (← argOf step "path" strIn))
    pure (match (← get).files.read p with
      | .ok bytes => .str (Utf8.decodeLossy bytes)
      | .error _ => .null)
  | "write" =>
    let p ← ask (filePathIn (← argOf step "path" strIn))
    let content ← optArg step "content" FileContent.absent fileContentIn
    let s ← get
    match putContent s.files p content with
    | .ok files =>
      set { s with files := files }
      pure .null
    | .error f => pure (ioJson f)
  | _ => refuseStep "unknown cfg fn"

end EngineSdk.Api
