import EngineSdk.Toml.Document
import EngineSdk.Decimal.Notation
import EngineSdk.Text.Debug
import EngineSdk.Host.Io
import EngineSdk.Host.Path

/-!
# The core configuration

The framework's own settings live in a TOML file: a format version, a log filter, the path of
the gamedata file (relative to the framework's base directory unless absolute), and whether to
resolve every known network variable at load time.  Every key is optional, a missing key
taking its default, and keys the framework does not know are ignored.

Reading a file is parsing it (`Toml.parse`) and then taking the four keys from its root table,
in the order they appear.  The first key whose item has the wrong type stops the reading, with
an error about that item's range:

* `version` wants an integer within 32 unsigned bits; another integer is an invalid value,
  anything else an invalid type;
* `log_level` and `gamedata_path` want strings, `prefetch_netvars` a boolean.

An invalid type names what was found: `integer`, `floating point`, `boolean` and `string`
with the value, `map` for tables, inline tables and date-times, `sequence` for arrays.

Writing a configuration gives one `key = value` line per setting, in the order above, each
string in the shape `Toml.stringRepr` picks.
-/

namespace EngineSdk

/-- The framework's settings. -/
structure CoreConfig where
  /-- The format version, a 32-bit unsigned number. -/
  version : Nat
  /-- The log filter, such as `info`. -/
  logLevel : String
  /-- The gamedata file, relative to the base directory unless absolute. -/
  gamedataPath : String
  /-- Resolve every known network variable at load time. -/
  prefetchNetvars : Bool
deriving Repr, DecidableEq

/-- Why a configuration could not be had. -/
inductive ConfigError where
  /-- The file could not be read or written. -/
  | io (fault : IoFault)
  /-- The file's text is not a valid configuration; the text of the error. -/
  | parse (text : String)
  /-- The configuration could not be written as TOML. -/
  | serialize (text : String)
  /-- The framework's base directory cannot be derived. -/
  | noConfigDirectory
deriving Repr, DecidableEq

/-- The text of a configuration error. -/
def ConfigError.message : ConfigError → String
  | .io f => "IO error: " ++ f.message
  | .parse t => "Failed to parse TOML: " ++ t
  | .serialize t => "Failed to serialize config: " ++ t
  | .noConfigDirectory => "Config directory not available - could not resolve plugin base path"

/-- The name of the kind of a configuration error. -/
def ConfigError.kind : ConfigError → String
  | .io _ => "IoError"
  | .parse _ => "ParseError"
  | .serialize _ => "SerializeError"
  | .noConfigDirectory => "NoConfigDirectory"

namespace CoreConfig

/-- The defaults: version 1, `info`, the bundled gamedata file, no prefetching. -/
def default : CoreConfig := ⟨1, "info", "gamedata/tf2rust.games.json", false⟩

/-- Floats as the refusal of a value names them: every digit written out, with a point. -/
def floatNotation : Decimal.Notation where
  plainFrom := -100000
  plainBelow := 100000
  nan := "NaN"
  inf := "inf"

/-- How a refusal names what it found. -/
def unexpected : Toml.Item → String
  | .value (.integer n) _ => "integer `" ++ toString n ++ "`"
  | .value (.float x) _ => "floating point `" ++ floatNotation.render x ++ "`"
  | .value (.boolean b) _ => "boolean `" ++ toString b ++ "`"
  | .value (.string s) _ => "string " ++ Text.debugQuote s
  | .value (.datetime _) _ => "map"
  | .value (.array _) _ => "sequence"
  | .value (.inline _ _) _ => "map"
  | .table _ _ => "map"
  | .tables _ => "sequence"

/-- The range an error about the item of key `k` points at: the item's own (for an array of
tables, the header of its first element), or the key's. -/
def itemSpan (k : Toml.Key) : Toml.Item → Toml.Span
  | .value _ s => s
  | .table info _ => info.span.getD k.span
  | .tables list => ((list.head?.bind fun e => e.1.header)).getD k.span

/-- The refusal of an item whose type is not the one expected. -/
def invalidType (k : Toml.Key) (it : Toml.Item) (expected : String) : Toml.DocError :=
  ⟨"invalid type: " ++ unexpected it ++ ", expected " ++ expected, some (itemSpan k it)⟩

/-- A 32-bit unsigned number. -/
def takeU32 (k : Toml.Key) (it : Toml.Item) : Except Toml.DocError Nat :=
  match it with
  | .value (.integer n) s =>
    if 0 ≤ n ∧ n < (Nat.pow 2 32 : Int) then .ok n.toNat
    else .error ⟨"invalid value: integer `" ++ toString n ++ "`, expected u32", some s⟩
  | _ => .error (invalidType k it "u32")

/-- A string. -/
def takeString (k : Toml.Key) (it : Toml.Item) : Except Toml.DocError String :=
  match it with
  | .value (.string s) _ => .ok s
  | _ => .error (invalidType k it "a string")

/-- A boolean. -/
def takeBool (k : Toml.Key) (it : Toml.Item) : Except Toml.DocError Bool :=
  match it with
  | .value (.boolean b) _ => .ok b
  | _ => .error (invalidType k it "a boolean")

/-- Takes one entry of the root table. -/
def takeEntry (c : CoreConfig) (e : Toml.Key × Toml.Item) : Except Toml.DocError CoreConfig :=
  let (k, it) := e
  if k.name = "version" then do pure { c with version := ← takeU32 k it }
  else if k.name = "log_level" then do pure { c with logLevel := ← takeString k it }
  else if k.name = "gamedata_path" then do pure { c with gamedataPath := ← takeString k it }
  else if k.name = "prefetch_netvars" then do pure { c with prefetchNetvars := ← takeBool k it }
  else pure c

/-- The settings of a root table, over the defaults. -/
def ofTable (root : Toml.Table) : Except Toml.DocError CoreConfig :=
  root.entries.foldlM takeEntry default

/-- The settings of a configuration file's text. -/
def read (text : String) : Except ConfigError CoreConfig :=
  match Toml.parse text >>= ofTable with
  | .ok c => .ok c
  | .error e => .error (.parse (e.render text))

/-- The text of a configuration file holding these settings; writing a string may abort. -/
def toToml (c : CoreConfig) : Except Panic String := do
  let level ← Toml.stringRepr c.logLevel
  let path ← Toml.stringRepr c.gamedataPath
  pure ("version = " ++ toString c.version ++ "\n" ++
    "log_level = " ++ level ++ "\n" ++
    "gamedata_path = " ++ path ++ "\n" ++
    "prefetch_netvars = " ++ toString c.prefetchNetvars ++ "\n")

/-- The gamedata file: the configured path when absolute, else below `base`. -/
def gamedataFile (c : CoreConfig) (base : String) : String :=
  if Path.isAbsolute c.gamedataPath then c.gamedataPath else Path.join base c.gamedataPath

/-- The settings of an existing file, given its text, or of none. -/
def readFrom (file : Option String) : Except ConfigError CoreConfig :=
  match file with
  | none => .error (.io .notFound)
  | some text => read text

/-- The settings of a file, and the file's text afterwards: a missing file is written with the
defaults. -/
def loadOrCreate (file : Option String) : Except (Failure ConfigError) (CoreConfig × String) :=
  match file with
  | none =>
    match default.toToml with
    | .ok text => .ok (default, text)
    | .error p => .error (.panic p)
  | some text =>
    match read text with
    | .ok c => .ok (c, text)
    | .error e => .error (.error e)

end CoreConfig

/-- The framework's base directory for the path of its binary, `<base>/bin/<binary>`. -/
def baseDirFromBinary (binary : String) : Except ConfigError String :=
  match Path.parent binary >>= Path.parent with
  | some dir => .ok dir
  | none => .error .noConfigDirectory

end EngineSdk
