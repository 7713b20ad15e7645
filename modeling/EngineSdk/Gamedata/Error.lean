/-!
# Gamedata errors

Everything that can go wrong while loading gamedata or locating a signature with it.  A
signature or offset can be missing altogether or only for this platform; the two are reported
with different texts.
-/

namespace EngineSdk

/-- Why a gamedata operation failed. -/
inductive GamedataError where
  /-- The file could not be read; the text is the system's. -/
  | io (reason : String)
  /-- The JSON text could not be read as gamedata; the text says why and where. -/
  | parse (reason : String)
  /-- No gamedata was installed. -/
  | notInitialized
  /-- Gamedata was installed before. -/
  | alreadyInitialized
  /-- No signature of that name; `platformOnly` when the entry exists without a pattern for
  this platform. -/
  | signatureNotFound (name : String) (platformOnly : Bool)
  /-- No offset of that name; `platformOnly` as for signatures. -/
  | offsetNotFound (name : String) (platformOnly : Bool)
  /-- A pattern that cannot be used. -/
  | invalidSignature (reason : String)
  /-- A pattern that matches nowhere in the module. -/
  | scanFailed (name : String)
deriving Repr, DecidableEq

/-- The name with the platform remark when only this platform lacks it. -/
def GamedataError.qualified (name : String) (platformOnly : Bool) (what : String) : String :=
  if platformOnly then name ++ " (no " ++ what ++ " for this platform)" else name

/-- The text of a gamedata error. -/
def GamedataError.message : GamedataError → String
  | .io reason => "Failed to read gamedata file: " ++ reason
  | .parse reason => "Failed to parse gamedata JSON: " ++ reason
  | .notInitialized => "Gamedata not initialized"
  | .alreadyInitialized => "Gamedata already initialized"
  | .signatureNotFound name p => "Signature not found: " ++ qualified name p "signature"
  | .offsetNotFound name p => "Offset not found: " ++ qualified name p "offset"
  | .invalidSignature reason => "Invalid signature format: " ++ reason
  | .scanFailed name => "Failed to find signature in memory: " ++ name

/-- The name of the kind of a gamedata error. -/
def GamedataError.kind : GamedataError → String
  | .io _ => "IoError"
  | .parse _ => "ParseError"
  | .notInitialized => "NotInitialized"
  | .alreadyInitialized => "AlreadyInitialized"
  | .signatureNotFound _ _ => "SignatureNotFound"
  | .offsetNotFound _ _ => "OffsetNotFound"
  | .invalidSignature _ => "InvalidSignature"
  | .scanFailed _ => "ScanFailed"

end EngineSdk
