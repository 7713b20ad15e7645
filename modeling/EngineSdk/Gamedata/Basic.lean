import EngineSdk.Gamedata.Pattern
import EngineSdk.Json.Decode
import EngineSdk.Host.Io

/-!
# Gamedata

Gamedata names the places in the game's code that the SDK needs: byte patterns (signatures)
to search for in a module, and fixed numbers (offsets) such as virtual-table slots.  It is read
from a JSON object whose members are classified one by one:

* a member whose value has a `signatures` key is a signature entry, read from that value;
* otherwise one with an `offsets` key is an offset entry, read from that value;
* otherwise one with a `linux` or `windows` key is a signature entry, read from the value
  itself;
* every other member, and every member that is not an object, is ignored.

When a name occurs twice, the later member counts.  An entry that cannot be read makes the
whole text fail.  Each entry holds a value per platform; this library reads the `linux` one.
-/

namespace EngineSdk

/-- Where and how to find one function or variable by its bytes. -/
structure SignatureEntry where
  /-- The module to search. -/
  library : String
  windows : Option String
  linux : Option String
  /-- The position, within the pattern, of a 32-bit displacement to follow. -/
  readOffset : Option Nat
deriving Repr, DecidableEq

/-- A number per platform. -/
structure OffsetEntry where
  windows : Option Int
  linux : Option Int
deriving Repr, DecidableEq

/-- The module searched when an entry names none. -/
def SignatureEntry.defaultLibrary : String := "client"

namespace SignatureEntry

/-- The array form of an entry: library (which may be missing), windows, linux, read offset. -/
def ofArray (xs : List Json) : Except String SignatureEntry := do
  let expected := "struct SignatureEntry with 4 elements"
  let library ← match xs[0]? with
    | some v => v.asString
    | none => pure defaultLibrary
  let windows ← match xs[1]? with
    | some v => v.asOption Json.asString
    | none => throw (Json.invalidLength 1 expected)
  let linux ← match xs[2]? with
    | some v => v.asOption Json.asString
    | none => throw (Json.invalidLength 2 expected)
  let readOffset ← match xs[3]? with
    | some v => v.asOption Json.asUsize
    | none => throw (Json.invalidLength 3 expected)
  if xs.length > 4 then throw (Json.invalidLength xs.length "fewer elements in array")
  pure ⟨library, windows, linux, readOffset⟩

/-- One member of the object form; unknown members are ignored. -/
def withMember (e : SignatureEntry) (m : String × Json) : Except String SignatureEntry :=
  match m with
  | ("library", v) => do pure { e with library := ← v.asString }
  | ("windows", v) => do pure { e with windows := ← v.asOption Json.asString }
  | ("linux", v) => do pure { e with linux := ← v.asOption Json.asString }
  | ("read_offset", v) => do pure { e with readOffset := ← v.asOption Json.asUsize }
  | _ => pure e

/-- An entry from an object (members taken in name order) or an array. -/
def ofJson (j : Json) : Except String SignatureEntry :=
  match j with
  | .obj _ => j.entries.foldlM withMember ⟨defaultLibrary, none, none, none⟩
  | .arr xs => ofArray xs
  | _ => .error (Json.invalidType j "struct SignatureEntry")

end SignatureEntry

namespace OffsetEntry

/-- The array form of an entry: windows, linux. -/
def ofArray (xs : List Json) : Except String OffsetEntry := do
  let expected := "struct OffsetEntry with 2 elements"
  let windows ← match xs[0]? with
    | some v => v.asOption Json.asI64
    | none => throw (Json.invalidLength 0 expected)
  let linux ← match xs[1]? with
    | some v => v.asOption Json.asI64
    | none => throw (Json.invalidLength 1 expected)
  if xs.length > 2 then throw (Json.invalidLength xs.length "fewer elements in array")
  pure ⟨windows, linux⟩

/-- One member of the object form; unknown members are ignored. -/
def withMember (e : OffsetEntry) (m : String × Json) : Except String OffsetEntry :=
  match m with
  | ("windows", v) => do pure { e with windows := ← v.asOption Json.asI64 }
  | ("linux", v) => do pure { e with linux := ← v.asOption Json.asI64 }
  | _ => pure e

/-- An entry from an object (members taken in name order) or an array. -/
def ofJson (j : Json) : Except String OffsetEntry :=
  match j with
  | .obj _ => j.entries.foldlM withMember ⟨none, none⟩
  | .arr xs => ofArray xs
  | _ => .error (Json.invalidType j "struct OffsetEntry")

end OffsetEntry

/-- What one member of a gamedata object is. -/
inductive GamedataEntry where
  | signature (e : SignatureEntry)
  | offset (e : OffsetEntry)
  | ignored

/-- Classifies and reads one member's value. -/
def GamedataEntry.ofJson (v : Json) : Except String GamedataEntry :=
  match v.get? "signatures" with
  | some s => GamedataEntry.signature <$> SignatureEntry.ofJson s
  | none =>
    match v.get? "offsets" with
    | some o => GamedataEntry.offset <$> OffsetEntry.ofJson o
    | none =>
      if (v.get? "linux").isSome || (v.get? "windows").isSome then
        GamedataEntry.signature <$> SignatureEntry.ofJson v
      else pure .ignored

/-- Signature and offset entries by name, each list sorted by name. -/
structure Gamedata where
  signatures : List (String × SignatureEntry)
  offsets : List (String × OffsetEntry)
deriving Repr

namespace Gamedata

/-- No entries. -/
def empty : Gamedata := ⟨[], []⟩

/-- Adds a classified member. -/
def add (g : Gamedata) (name : String) : GamedataEntry → Gamedata
  | .signature e => { g with signatures := g.signatures ++ [(name, e)] }
  | .offset e => { g with offsets := g.offsets ++ [(name, e)] }
  | .ignored => g

/-- The members of the JSON object that gamedata text holds, duplicates included. -/
def members (text : String) : Except GamedataError (List (String × Json)) :=
  match Json.parseObject text "a map" with
  | .ok ms => pure ms
  | .error e => throw (.parse (e.message text))

/-- Classifies, reads and adds one member, or fails with why its entry cannot be read. -/
def addMember (g : Gamedata) (m : String × Json) : Except GamedataError Gamedata :=
  match GamedataEntry.ofJson m.2 with
  | .ok e => pure (g.add m.1 e)
  | .error reason => throw (.parse reason)

/-- Reads gamedata from JSON text: the members as a map reads them, each added in turn. -/
def load (text : String) : Except GamedataError Gamedata := do
  let ms ← members text
  (Json.obj ms).entries.foldlM addMember empty

/-- Reads gamedata from a file: its text, or none when there is no such file. -/
def loadFile : Option String → Except GamedataError Gamedata
  | none => .error (.io IoFault.notFound.message)
  | some text => load text

/-- The linux pattern of a signature. -/
def signature (g : Gamedata) (name : String) : Except GamedataError String :=
  match g.signatures.lookup name with
  | none => .error (.signatureNotFound name false)
  | some e =>
    match e.linux with
    | some s => .ok s
    | none => .error (.signatureNotFound name true)

/-- The linux value of an offset. -/
def offset (g : Gamedata) (name : String) : Except GamedataError Int :=
  match g.offsets.lookup name with
  | none => .error (.offsetNotFound name false)
  | some e =>
    match e.linux with
    | some v => .ok v
    | none => .error (.offsetNotFound name true)

/-- There is a linux offset of that name. -/
def hasOffset (g : Gamedata) (name : String) : Bool :=
  match g.offset name with
  | .ok _ => true
  | .error _ => false

/-- The module of a signature. -/
def library? (g : Gamedata) (name : String) : Option String :=
  (g.signatures.lookup name).map SignatureEntry.library

/-- The displacement position of a signature, if it has one. -/
def readOffset? (g : Gamedata) (name : String) : Option Nat :=
  (g.signatures.lookup name).bind SignatureEntry.readOffset

/-- The signature names, sorted. -/
def signatureNames (g : Gamedata) : List String := g.signatures.map Prod.fst

end Gamedata

end EngineSdk
