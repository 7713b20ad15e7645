/-!
# Entity handles

An entity handle is a 32-bit word that names an entity slot and the generation of its occupant:
the low 12 bits are the slot index (there are `2 ^ 12` slots) and the high 20 bits the serial
number.  The all-ones word is the invalid handle, which is also the default.

`TypedHandle α` is the same word tagged with the kind of entity it refers to; the tag changes
nothing about the word, its equality or its hash.
-/

namespace EngineSdk

/-- Bits of the slot index. -/
def entryBits : Nat := 12

/-- Bits of an edict index. -/
def maxEdictBits : Nat := 11

/-- The number of networked edicts, `2 ^ 11`. -/
def maxEdicts : Nat := Nat.pow 2 maxEdictBits

/-- The number of entity slots, networked or not, `2 ^ 12`. -/
def numEntEntries : Nat := Nat.pow 2 entryBits

/-- The mask of the slot index, `2 ^ 12 - 1`. -/
def entryMask : UInt32 := 0xFFF

/-- The word of the invalid handle. -/
def invalidHandleWord : UInt32 := 0xFFFFFFFF

/-- A 32-bit entity handle. -/
@[ext]
structure EntityHandle where
  raw : UInt32
deriving DecidableEq, Hashable, Repr

namespace EntityHandle

/-- The handle of slot `index` and serial `serial`; the index keeps its low 12 bits and the
serial is shifted out of the word above its low 20 bits. -/
def new (index serial : UInt32) : EntityHandle := ⟨(index &&& entryMask) ||| (serial <<< 12)⟩

/-- The invalid handle. -/
def invalid : EntityHandle := ⟨invalidHandleWord⟩

instance : Inhabited EntityHandle := ⟨invalid⟩

/-- The slot index. -/
def index (h : EntityHandle) : UInt32 := h.raw &&& entryMask

/-- The serial number. -/
def serial (h : EntityHandle) : UInt32 := h.raw >>> 12

/-- Whether the handle is not the invalid one. -/
def isValid (h : EntityHandle) : Bool := h.raw != invalidHandleWord

/-- `index:serial`, or `invalid`. -/
def display (h : EntityHandle) : String :=
  if h.isValid then toString h.index.toNat ++ ":" ++ toString h.serial.toNat else "invalid"

/-- `kind(index=I, serial=S)`, or `kind(invalid)`, for a type name `kind`. -/
def describe (kind : String) (h : EntityHandle) : String :=
  if h.isValid then
    kind ++ "(index=" ++ toString h.index.toNat ++ ", serial=" ++ toString h.serial.toNat ++ ")"
  else kind ++ "(invalid)"

end EntityHandle

/-- An entity handle tagged with the kind of entity it refers to. -/
structure TypedHandle (α : Type) where
  base : EntityHandle
deriving Repr

namespace TypedHandle

variable {α β : Type}

/-- Typed handles compare by their untyped handles, whatever their kind. -/
instance : DecidableEq (TypedHandle α) := fun a b =>
  decidable_of_iff (a.base = b.base) ⟨fun h => by cases a; cases b; cases h; rfl, fun h => h ▸ rfl⟩

/-- The typed handle of a word. -/
def ofRaw (raw : UInt32) : TypedHandle α := ⟨⟨raw⟩⟩

/-- The typed handle of an untyped one, through its word. -/
def ofBase (h : EntityHandle) : TypedHandle α := ofRaw h.raw

/-- The invalid typed handle, also the default. -/
def invalid : TypedHandle α := ⟨EntityHandle.invalid⟩

instance : Inhabited (TypedHandle α) := ⟨invalid⟩

/-- The word of a typed handle. -/
def raw (h : TypedHandle α) : UInt32 := h.base.raw

/-- The slot index of a typed handle. -/
def index (h : TypedHandle α) : UInt32 := h.base.index

/-- The serial number of a typed handle. -/
def serial (h : TypedHandle α) : UInt32 := h.base.serial

/-- Whether a typed handle is not the invalid one. -/
def isValid (h : TypedHandle α) : Bool := h.base.isValid

/-- The same handle tagged with another kind: the typed handle of the same word. -/
def cast (h : TypedHandle α) : TypedHandle β := ofRaw h.raw

/-- A typed handle hashes as its untyped handle. -/
instance : Hashable (TypedHandle α) := ⟨fun h => hash h.base⟩

end TypedHandle

end EngineSdk
