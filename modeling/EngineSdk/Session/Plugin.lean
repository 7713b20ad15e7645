import EngineSdk.Session.Startup
import EngineSdk.Text.Utf8
import EngineSdk.Text.CString

/-!
# The server plugin

The object the game loads: its `CreateInterface` export hands it out for the one callbacks
version it implements, and its callbacks pass what the game tells it on to the listeners.

A callback about a client names the client by its edict; the engine server turns that into the
entity index, and the player slot is one less.  When the engine has no server interface, the
server has no function in the slot, or the index is not positive, the callback fires nothing.
-/

namespace EngineSdk.Plugin

open StandIn Run

/-- The text the plugin describes itself with. -/
def description : String := "tf2rust 0.1.0 - Team Fortress 2 Rust plugin framework"

/-- Whether the export hands out the plugin for a requested name, and the code it writes. -/
def createInterface (name : CString) : Bool × Int :=
  if name == some pluginCallbacksVersion.toUTF8.toList then (true, 0) else (false, 1)

/-- The player slot of a client edict. -/
def edictSlot (edict : Ptr) : Run (Option Int) := do
  if edict.isNull then return none
  match ← service? .engineServer with
  | none => pure none
  | some server =>
    match ← call server "IVEngineServer::IndexOfEdict" 18 [.ptr edict] with
    | none => pure none
    | some o =>
      let index := o.result.asInt
      pure (if index > 0 then some (index - 1) else none)

/-- A level starts; a null map name fires nothing. -/
def levelInit (map : CString) : Run Unit :=
  match map with
  | some bytes => fire (.levelInit (Utf8.decodeLossy bytes))
  | none => pure ()

/-- The server starts with room for `clientMax` clients. -/
def serverActivate (clientMax : Int) : Run Unit := fire (.serverActivate clientMax)

/-- A server frame. -/
def gameFrame (simulating : Bool) : Run Unit := fire (.gameFrame simulating)

/-- The level ends. -/
def levelShutdown : Run Unit := fire .levelShutdown

/-- A client enters the game. -/
def clientActive (edict : Ptr) : Run Unit := do
  match ← edictSlot edict with
  | some slot => fire (.clientActive slot)
  | none => pure ()

/-- A client leaves. -/
def clientDisconnect (edict : Ptr) : Run Unit := do
  match ← edictSlot edict with
  | some slot => fire (.clientDisconnect slot)
  | none => pure ()

/-- The game unloads the plugin; a panic while shutting down is swallowed. -/
def unload : Run Unit := tryCatch shutdown fun _ => pure ()

end EngineSdk.Plugin
