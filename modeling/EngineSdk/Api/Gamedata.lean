import EngineSdk.Api.Basic
import EngineSdk.Sdk.Startup

/-!
# Requests on gamedata, patterns and signature resolution
-/

namespace EngineSdk.Api

/-- A gamedata error as a refusal of its own kind. -/
def gdFail {α : Type} (e : GamedataError) : Reply α := .error ⟨e.kind, e.message⟩

/-- A gamedata error as answered. -/
def gdJson (e : GamedataError) : Json := failJson ⟨e.kind, e.message⟩

/-- A gamedata result as an answer. -/
def orGd {α : Type} : Except GamedataError α → Reply α
  | .ok a => pure a
  | .error e => gdFail e

/-- A signature pattern argument, read from its text. -/
def patternIn (j : Json) : Reply Pattern :=
  match j with
  | .str s => orGd (Pattern.parse s)
  | .arr xs => xs.mapM fun
    | .null => pure none
    | x => do
      let n ← natIn x
      if n < 256 then pure (some n.toUInt8) else refuse "byte out of range"
  | _ => refuse "bad pattern"

/-- A signature pattern as answered: bytes, with null for a wildcard. -/
def patternOut (p : Pattern) : Json := .arr (p.map (optJson fun b => Json.int b.toNat))

/-- The gamedata of a request, read from its JSON text. -/
def gamedataIn (req : Json) : Reply Gamedata := do
  if flagIn req "via_file" then
    match ← need req "gamedata" with
    | .null => orGd (Gamedata.loadFile none)
    | j => orGd (Gamedata.loadFile (some (← strIn j)))
  else orGd (Gamedata.load (← strIn (← need req "gamedata")))

/-- One query on a gamedata. -/
def gdQuery (g : Gamedata) (q : Json) : Reply Json := do
  let name : Reply String := do strIn (← need q "name")
  match ← strIn (← need q "q") with
  | "signature" => pure (match g.signature (← name) with
    | .ok s => .str s
    | .error e => gdJson e)
  | "offset" => pure (match g.offset (← name) with
    | .ok v => Json.int v
    | .error e => gdJson e)
  | "has_offset" => pure (.bool (g.hasOffset (← name)))
  | "library" => pure (optJson .str (g.library? (← name)))
  | "read_offset" => pure (optJson (fun (n : Nat) => Json.int n) (g.readOffset? (← name)))
  | "names" => pure (.arr (g.signatureNames.map .str))
  | "counts" => pure (.obj [("signatures", Json.int g.signatures.length),
      ("offsets", Json.int g.offsets.length)])
  | _ => refuse "unknown query"

/-- A `gamedata` request: queries on a gamedata. -/
def gamedataOp (req : Json) : Reply Json := do
  let g ← gamedataIn req
  let rs ← (← arrIn (← need req "queries")).mapM (gdQuery g)
  pure (.obj [("results", .arr rs)])

/-- A `scan_signature` request: a pattern matched in memory. -/
def scanSignatureOp (req : Json) : Reply Json := do
  let data ← hexIn (← need req "data")
  let p ← patternIn (← need req "pattern")
  let size ← match req.get? "size" with
    | some s => natIn s
    | none => pure data.length
  if size > data.length then refuse "size must be <= data length"
  else pure (optJson (fun (n : Nat) => Json.int n) (p.scan data size))

/-- A `resolve_relative` request: a 32-bit displacement followed. -/
def resolveRelativeOp (req : Json) : Reply Json := do
  let data ← hexIn (← need req "data")
  let at_ := (← natIn (← need req "address")) + (← natIn (← need req "read_offset"))
  if at_ + 4 > data.length then refuse "operand outside data"
  else pure (Json.int (relativeTarget data at_))

/-- A `find_signature` request: a named signature located in memory. -/
def findSignatureOp (req : Json) : Reply Json := do
  if flagIn req "global" then gdFail .notInitialized
  let g ← orGd (Gamedata.load (← strIn (← need req "gamedata")))
  let data ← hexIn (← need req "data")
  match g.locate (← strIn (← need req "name")) data data.length with
  | .ok off => pure (Json.int off)
  | .error (.error e) => gdFail e
  | .error (.panic p) => aborted p

/-- An `sdk_resolve` request: every signature located in its module. -/
def sdkResolveOp (req : Json) : Reply Json := do
  let g ← orGd (Gamedata.load (← strIn (← need req "gamedata")))
  let mods ← match ← need req "modules" with
    | .obj ms => ms.mapM fun (k, v) => do pure (k, ← hexIn v)
    | _ => refuse "modules must be an object"
  let resolver : ModuleResolver Unit :=
    ⟨fun m => (mods.lookup m).map (ModuleImage.mk m 0), fun _ => none⟩
  let res ← ofPanic (g.resolveAll resolver.module)
  let (init, calls) := if flagIn req "init" then
      let (r, asked) := (resolver.acquire ModuleFactories.empty).run []
      let init := match r with
        | .error e => .obj [("error", .str e.kind), ("message", .str e.message),
            ("try_sdk_some", .bool false)]
        | .ok _ => .null
      (init, asked.map ("CreateInterface:" ++ ·))
    else (.null, [])
  pure (.obj [
    ("addresses", .obj (res.addresses.map fun (n, m, off) =>
      (n, .obj [("module", .str m), ("offset", Json.int off)]))),
    ("failed", .arr (res.failures.map (.str ·.1))),
    ("reasons", .obj (res.failures.map fun (n, r) => (n, .str r))),
    ("resolved_count", Json.int res.resolvedCount),
    ("module_calls", .arr ((res.modulesAsked ++ calls).map .str)),
    ("interface_EngineClient", .null),
    ("init", init)])

end EngineSdk.Api
