import EngineSdk.Config.Core

/-!
# A plugin's configuration

A plugin keeps its settings in a TOML file of its own, below the framework's configuration
directory.  The settings here are a field of view (a binary32 number), a name and a switch.
Unlike the framework's settings every key must be present; keys the plugin does not know are
ignored.

Reading takes the keys of the root table in the order they appear; the first one whose item
has the wrong type stops the reading with an error about that item.  A missing key is found
only after all keys are read, the first missing one in the order above, and the error is about
the whole document.  The field of view takes a floating point number, rounded to binary32, or
an integer, rounded the same way.

Writing gives one `key = value` line per setting in the order above.  The field of view is
written as the binary64 value equal to it, every digit written out with a point, and `nan`,
`inf` and `-inf` for the special values.
-/

namespace EngineSdk

/-- The settings of a plugin. -/
structure PluginSettings where
  /-- The field of view, a binary32 number. -/
  fov : Float32
  /-- A name. -/
  name : String
  /-- The plugin is switched on. -/
  enabled : Bool

namespace PluginSettings

/-- The settings a plugin starts from: zero, empty and off. -/
def default : PluginSettings := ⟨0, "", false⟩

/-- Settings being read: each key's value once it is seen. -/
structure Partial where
  fov : Option Float32
  name : Option String
  enabled : Option Bool

/-- A binary32 number from an item: a float or an integer, rounded. -/
def takeF32 (k : Toml.Key) (it : Toml.Item) : Except Toml.DocError Float32 :=
  match it with
  | .value (.float x) _ => .ok x.toFloat32
  | .value (.integer n) _ => .ok (Float32.ofInt n)
  | _ => .error (CoreConfig.invalidType k it "f32")

/-- Takes one entry of the root table. -/
def takeEntry (p : Partial) (e : Toml.Key × Toml.Item) : Except Toml.DocError Partial :=
  let (k, it) := e
  if k.name = "fov" then do pure { p with fov := some (← takeF32 k it) }
  else if k.name = "name" then do pure { p with name := some (← CoreConfig.takeString k it) }
  else if k.name = "enabled" then do pure { p with enabled := some (← CoreConfig.takeBool k it) }
  else pure p

/-- The refusal of a document that lacks a key. -/
def missingField (text : String) (key : String) : Toml.DocError :=
  ⟨"missing field `" ++ key ++ "`", some ⟨0, text.utf8ByteSize⟩⟩

/-- The settings of a root table, every key present. -/
def ofTable (text : String) (root : Toml.Table) : Except Toml.DocError PluginSettings := do
  let p ← root.entries.foldlM takeEntry ⟨none, none, none⟩
  match p.fov, p.name, p.enabled with
  | some f, some n, some b => pure ⟨f, n, b⟩
  | none, _, _ => throw (missingField text "fov")
  | _, none, _ => throw (missingField text "name")
  | _, _, none => throw (missingField text "enabled")

/-- The settings of a configuration file's text. -/
def read (text : String) : Except ConfigError PluginSettings :=
  match Toml.parse text >>= ofTable text with
  | .ok c => .ok c
  | .error e => .error (.parse (e.render text))

/-- Floats as the file writes them: every digit written out, with a point. -/
def floatNotation : Decimal.Notation where
  plainFrom := -100000
  plainBelow := 100000
  nan := "nan"
  inf := "inf"

/-- The text of a configuration file holding these settings; writing a string may abort. -/
def toToml (c : PluginSettings) : Except Panic String := do
  let name ← Toml.stringRepr c.name
  pure ("fov = " ++ floatNotation.render c.fov.toFloat ++ "\n" ++
    "name = " ++ name ++ "\n" ++
    "enabled = " ++ toString c.enabled ++ "\n")

end PluginSettings

end EngineSdk
