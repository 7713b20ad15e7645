import EngineSdk.Config.Plugin
import EngineSdk.Host.Files

/-!
# Configuration files

The framework keeps its files below a base directory, the parent of the directory holding its
binary: the framework's settings in `configs/core.toml`, each plugin's in
`configs/plugins/<name>/<name>.toml`, and gamedata below `gamedata`.

A `ConfigFormat` says how one kind of settings is read from text, written as text, and what
its defaults are.  Over a `FileTree` rooted at the base directory:

* `readFrom` reads a file and its settings;
* `saveTo` makes the file's directory with its parents, then writes the settings as text and
  the text to the file; writing the text may abort, after the directory was made;
* `loadOrCreate` reads the file when something stands at its path, and otherwise writes the
  defaults there and answers them; a failed write is the answer then.
-/

namespace EngineSdk

/-- How one kind of settings is kept in a file. -/
structure ConfigFormat (α : Type) where
  /-- The settings of a file's text. -/
  read : String → Except ConfigError α
  /-- The text of a file holding the settings, or the abort of writing it. -/
  render : α → Except Panic String
  /-- The settings of a missing file. -/
  default : α

/-- The framework's settings as a file. -/
def CoreConfig.format : ConfigFormat CoreConfig := ⟨CoreConfig.read, CoreConfig.toToml, CoreConfig.default⟩

/-- A plugin's settings as a file. -/
def PluginSettings.format : ConfigFormat PluginSettings :=
  ⟨PluginSettings.read, PluginSettings.toToml, PluginSettings.default⟩

namespace ConfigFormat

variable {α : Type}

/-- The settings in the file at a path. -/
def readFrom (fmt : ConfigFormat α) (t : FileTree) (p : String) : Except ConfigError α := do
  let text ← (t.readText p).mapError .io
  fmt.read text

/-- Writes settings to the file at a path, making its directory first: the tree afterwards,
which keeps the directory when the settings fail to be written, and the outcome. -/
def saveTo (fmt : ConfigFormat α) (t : FileTree) (p : String) (c : α) :
    FileTree × Except (Failure ConfigError) Unit :=
  match (Path.parent p).elim (.ok t) t.createDirAll with
  | .error e => (t, .error (.error (.io e)))
  | .ok t' =>
    match fmt.render c with
    | .error x => (t', .error (.panic x))
    | .ok text =>
      match t'.write p text.toUTF8.toList with
      | .ok t'' => (t'', .ok ())
      | .error e => (t', .error (.error (.io e)))

/-- The settings of the file at a path, written with the defaults first when nothing is there;
the tree afterwards. -/
def loadOrCreate (fmt : ConfigFormat α) (t : FileTree) (p : String) :
    Except (Failure ConfigError) α × FileTree :=
  if t.present p then ((fmt.readFrom t p).mapError .error, t)
  else
    let (t', r) := fmt.saveTo t p fmt.default
    (r.map fun _ => fmt.default, t')

end ConfigFormat

namespace Layout

/-- The framework's binary, relative to the base directory. -/
def binary : String := "bin/tf2rust_oracle"

/-- The configuration directory. -/
def configs : String := "configs"

/-- The gamedata directory. -/
def gamedata : String := "gamedata"

/-- The framework's settings file. -/
def core : String := Path.join configs "core.toml"

/-- The settings file of the plugin `name`. -/
def plugin (name : String) : String :=
  Path.join (Path.join (Path.join configs "plugins") name) (name ++ ".toml")

/-- A path as shown relative to the base directory: `.` for the base itself, `<outside>` for a
path that is not below it. -/
def shown (p : String) : String :=
  if Path.isAbsolute p then "<outside>" else if p.isEmpty then "." else p

end Layout

end EngineSdk
