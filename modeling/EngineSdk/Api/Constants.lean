import EngineSdk.Api.Basic
import EngineSdk.Entity.Handle
import EngineSdk.Entity.Netvars
import EngineSdk.Game.Codes
import EngineSdk.Container.ByteBuffer
import EngineSdk.Container.Block
import EngineSdk.Interface.Factory
import EngineSdk.Netvar.Table
import EngineSdk.Studio.Model
import EngineSdk.Convar.Basic

/-!
# The fixed numbers and names of the SDK

`constantsOp` answers with every constant the SDK pins, each under its engine name.
-/

namespace EngineSdk.Api

/-- A list of integers as JSON. -/
def intsJson (xs : List Int) : Json := .arr (xs.map Json.int)

/-- A row of the interface table: name, module and version bytes in hex. -/
def interfaceRowJson (i : Interface) : Json :=
  .arr [.str i.name, .str i.module, hexOut i.versionBytes]

/-- Every pinned constant, by name in sorted order. -/
def constantsJson : Json :=
  .obj [("BASECLASS_PROP", .str Netvar.baseclassProp),
    ("ENT_ENTRY_MASK", Json.int entryMask.toNat),
    ("EXTERNAL_BUFFER_MARKER", Json.int externalMarker),
    ("EXTERNAL_CONST_BUFFER_MARKER", Json.int externalConstMarker),
    ("FCVAR_CHEAT", Json.int ConVarFlags.cheat),
    ("FCVAR_CLIENTCMD_CAN_EXECUTE", Json.int ConVarFlags.clientCmdCanExecute),
    ("FCVAR_NEVER_AS_STRING", Json.int ConVarFlags.neverAsString),
    ("FCVAR_NOTIFY", Json.int ConVarFlags.notify),
    ("FCVAR_REPLICATED", Json.int ConVarFlags.replicated),
    ("IFACE_FAILED", Json.int ifaceFailed),
    ("IFACE_OK", Json.int ifaceOk),
    ("INTERFACE_TABLE", .arr (Interface.all.map interfaceRowJson)),
    ("INVALID_EHANDLE_INDEX", Json.int invalidHandleWord.toNat),
    ("INVALID_INDEX", Json.int noNode.toNat),
    ("KNOWN_PROPS", .arr (Entity.knownProps.map fun (t, p) => .arr [.str t, .str p])),
    ("MAXSTUDIOBONES", Json.int maxStudioBones),
    ("MAX_EDICTS", Json.int maxEdicts),
    ("MAX_EDICT_BITS", Json.int maxEdictBits),
    ("MAX_PLAYERS", Json.int maxPlayers),
    ("NETWORKABLE_OFFSET", Json.int Entity.networkableOffset),
    ("NUM_ENT_ENTRIES", Json.int numEntEntries),
    ("NUM_ENT_ENTRY_BITS", Json.int entryBits),
    ("PLUGIN_CALLBACKS", hexOut (pluginCallbacksVersion.toUTF8.toList ++ [0])),
    ("RENDERABLE_OFFSET", Json.int Entity.renderableOffset),
    ("bone_flags", intsJson [BoneFlags.usedByHitbox, BoneFlags.usedByAnything,
      BoneFlags.usedByVertexMask]),
    ("buffer_errors", intsJson ([BufferErrors.getOverflow, BufferErrors.putOverflow].map
      (·.toNat))),
    ("buffer_flags", intsJson ([BufferFlags.text, BufferFlags.externalGrowable,
      BufferFlags.containsCrlf, BufferFlags.readOnly, BufferFlags.autoTabsDisabled].map
      (·.toNat))),
    ("hitgroup", intsJson [HitGroup.generic, HitGroup.head, HitGroup.gear]),
    ("iconvar_offset", Json.int iconvarOffset),
    ("player_flags", intsJson [PlayerFlags.onGround, PlayerFlags.ducking, PlayerFlags.inWater])]

/-- The answer to a request for the constants. -/
def constantsOp : Reply Json := pure constantsJson

end EngineSdk.Api
