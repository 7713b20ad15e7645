import EngineSdk.Api.Basic
import EngineSdk.Netvar.Hash
import EngineSdk.Entity.Handle
import EngineSdk.Game.Codes

/-!
# Requests on hashes, handles and enumerations
-/

namespace EngineSdk.Api

/-- A `hash` request: the name hashes. -/
def hashOp (req : Json) (fn : String) : Reply Json := do
  match fn with
  | "fnv1a_32" => return Json.int (Netvar.fnv1a (← bytesIn (← need req "data"))).toNat
  | "combined_hash" =>
    let t ← bytesIn (← need req "table")
    let p ← bytesIn (← need req "prop")
    return .str (toString (Netvar.combinedKey t p).toNat)
  | _ => refuse "unknown fn"

/-- The parts of an entity handle as answered. -/
def handleFields (h : EntityHandle) : List (String × Json) :=
  [("raw", Json.int h.raw.toNat), ("index", Json.int h.index.toNat),
    ("serial", Json.int h.serial.toNat), ("is_valid", .bool h.isValid)]

/-- A `handle` request: entity handles. -/
def handleOp (req : Json) (fn : String) : Reply Json := do
  let h ← match fn with
    | "from_raw" => do pure (EntityHandle.mk (← u32In (← need req "raw")))
    | "new" => do pure (EntityHandle.new (← u32In (← need req "index")) (← u32In (← need req "serial")))
    | "invalid" | "default" | "typed_invalid" => pure EntityHandle.invalid
    | _ => refuse "unknown fn"
  let t : TypedHandle Unit := .ofRaw h.raw
  let wantTyped := match req.get? "typed" with
    | some (.bool true) => true
    | _ => false
  let typed : List (String × Json) := if wantTyped then
      [("typed", Json.obj ([("index", Json.int t.index.toNat), ("serial", Json.int t.serial.toNat),
        ("is_valid", .bool t.isValid), ("base_eq", .bool (t.base == h)),
        ("clone_eq", .bool (t == t)), ("eq_default", .bool (t == default)),
        ("hash_eq_base", .bool (hash t == hash h)), ("get_ptr_some", .bool false)]))]
    else []
  return .obj (handleFields h ++ [("display", .str h.display),
    ("debug", .str (h.describe "BaseHandle")), ("typed_display", .str t.base.display),
    ("typed_debug", .str (t.base.describe "Handle")),
    ("typed_eq_cast_raw", .bool ((t.cast : TypedHandle Nat) == TypedHandle.ofRaw h.raw)),
    ("eq_default", .bool (h == default)), ("get_ptr_some", .bool false)] ++ typed)

/-- A numeric code as answered: its name when it has one, with what `extra` adds. -/
def codeAnswer (α : Type) [Coded α] (v : Int) (extra : α → List (String × Json)) : Json :=
  match (Coded.tryFrom v : Except Int α) with
  | .ok e =>
    .obj ([("variant", .str (Coded.label e)), ("value", Json.int (Coded.code e))] ++ extra e)
  | .error w => .obj [("err", Json.int w)]

/-- An `enum` request: the game's numeric codes. -/
def enumOp (req : Json) : Reply Json := do
  let name ← strIn (← need req "enum")
  let v ← i32In "value" (← need req "value")
  match name with
  | "ClientFrameStage" => return codeAnswer FrameStage v fun _ => []
  | "TFClass" => return codeAnswer PlayerClass v fun e => [("name", .str e.name)]
  | "TFTeam" => return codeAnswer Team v fun e => [("is_playing", .bool e.isPlaying)]
  | "LifeState" => return codeAnswer LifeState v fun _ => []
  | "MoveType" => return codeAnswer MoveType v fun _ => []
  | "TeleporterState" => return codeAnswer TeleporterState v fun _ => []
  | "SentryGunState" => return codeAnswer SentryState v fun _ => []
  | "ObjectType" => return codeAnswer BuildingKind v fun _ => []
  | "PluginResult" => return codeAnswer PluginResult v fun _ => []
  | "SendPropType" => return codeAnswer PropKind v fun _ => []
  | _ => refuse "unknown enum"

end EngineSdk.Api
