import EngineSdk.Api.Math
import EngineSdk.Api.Codes
import EngineSdk.Api.Containers
import EngineSdk.Api.Gamedata
import EngineSdk.Api.Interfaces
import EngineSdk.Api.Netvar
import EngineSdk.Api.Studio
import EngineSdk.Api.Convar
import EngineSdk.Api.Listeners
import EngineSdk.Api.EntityList
import EngineSdk.Api.Constants
import EngineSdk.Api.Config
import EngineSdk.Api.NetClass
import EngineSdk.Api.Engine

/-!
# Dispatch of requests

`handle` answers one request by its `op`; `answer` reads a request line and writes the reply
line, `\x7b"ok": value\x7d` or `\x7b"error": kind, "message": text\x7d`.
-/

namespace EngineSdk.Api

/-- The answer to one request, by its `op`. -/
def handle (req : Json) : Reply Json := do
  let op ← strIn (← need req "op")
  let fn : Reply String := do strIn (← need req "fn")
  match op with
  | "vector" => vector req (← fn)
  | "matrix" => matrix req (← fn)
  | "qangle" => qangle req (← fn)
  | "hash" => hashOp req (← fn)
  | "handle" => handleOp req (← fn)
  | "enum" => enumOp req
  | "buffer" => bufferOp req
  | "utl_memory" => utlMemoryOp req
  | "utl_vector" => utlVectorOp req
  | "linked_list" => linkedListOp req
  | "gamedata" => gamedataOp req
  | "parse_signature" => do
    let text ← match req.get? "pattern" with
      | some j => strIn j
      | none => refuse "missing pattern"
    pure (patternOut (← orGd (Pattern.parse text)))
  | "scan_signature" => scanSignatureOp req
  | "resolve_relative" => resolveRelativeOp req
  | "find_signature" => findSignatureOp req
  | "sdk_resolve" => sdkResolveOp req
  | "interfaces" => interfacesOp req
  | "recvprop" => recvpropOp req
  | "studio" => studioOp req
  | "convar" => convarOp req
  | "listeners" => listenersOp req
  | "constants" => constantsOp
  | "config" => configOp req (← fn)
  | "entity_list" => entityListOp req
  | "netclass_derive" => netclassOp req
  | "engine" => engineOp req
  | _ => refuse "unknown op"

/-- The reply line to a request line. -/
def answer (line : String) : String :=
  match Json.parse line with
  | .error _ => Json.render (.obj [("error", .str "bad_input"), ("message", .str "invalid JSON")])
  | .ok req =>
    match handle req with
    | .ok v => Json.render (.obj [("ok", v)])
    | .error f => Json.render (failJson f)

end EngineSdk.Api
