import EngineSdk.Netvar.Offsets
import EngineSdk.Bytes.Cell

/-!
# Networked fields

A `Field` reads and writes one networked variable of an entity: it names the table and the
property and keeps the offset once it is known, in its slot.  Resolving a field returns the slot
when it is filled, and otherwise looks the offset up through the engine and fills the slot with
it; a failed lookup leaves the slot empty, so a later call tries again.

The `try` accessors answer nothing (or `false`) for a null entity, without resolving, and for a
field that cannot be resolved.  The plain accessors stop the call when the field cannot be
resolved, with the lookup error in the message.
-/

namespace EngineSdk.Netvar

/-- A networked variable of entities, with its resolved offset once known. -/
structure Field where
  table : String
  prop : String
  /-- The offset, once resolved. -/
  slot : Option Int
deriving Repr, DecidableEq

/-- The offset in a slot, or the offset of `table.prop` looked up through the engine; a found
offset fills the slot. -/
def resolveSlot (head : Except RecvPropError Registry) (table prop : String) (slot : Option Int) :
    Lookup (Except RecvPropError Int × Option Int) := do
  match slot with
  | some o => pure (.ok o, slot)
  | none =>
    match ← offsetVia head table prop with
    | .ok o => pure (.ok o.offset, some o.offset)
    | .error e => pure (.error e, none)

/-- A value at a signed byte offset of a block; negative offsets lie outside it and read as
zero. -/
def loadAt {α : Type} (cell : Cell α) (block : List UInt8) (offset : Int) : α :=
  if offset < 0 then cell.decode (List.replicate cell.width 0) else cell.load block offset.toNat

/-- A block with a value written at a signed byte offset; writes outside it are dropped. -/
def storeAt {α : Type} (cell : Cell α) (block : List UInt8) (offset : Int) (v : α) : List UInt8 :=
  if offset < 0 then block else cell.store block offset.toNat v

namespace Field

/-- A field with an empty slot. -/
def new (table prop : String) : Field := ⟨table, prop, none⟩

/-- A field whose slot holds `offset` from the start. -/
def withOffset (table prop : String) (offset : Int) : Field := ⟨table, prop, some offset⟩

/-- The slot is filled. -/
def isResolved (f : Field) : Bool := f.slot.isSome

/-- The offset of the field, resolving it when needed, with the field afterwards. -/
def resolve (head : Except RecvPropError Registry) (f : Field) :
    Lookup (Except RecvPropError Int × Field) := do
  let (r, slot) ← resolveSlot head f.table f.prop f.slot
  pure (r, { f with slot := slot })

/-- The offset of the field, or none when it cannot be resolved. -/
def tryOffset (head : Except RecvPropError Registry) (f : Field) : Lookup (Option Int × Field) := do
  let (r, f) ← f.resolve head
  pure (r.toOption, f)

/-- The stop of a field that cannot be resolved. -/
def unresolved (f : Field) (e : RecvPropError) : Panic :=
  .abort ("Failed to resolve " ++ f.table ++ "." ++ f.prop ++ ": " ++ e.message)

/-- The offset of the field; a field that cannot be resolved stops the call. -/
def offset (head : Except RecvPropError Registry) (f : Field) : Lookup (Int × Field) := do
  let (r, f) ← f.resolve head
  match r with
  | .ok o => pure (o, f)
  | .error e => throw (f.unresolved e)

/-- The value of the field in an entity's memory, or none for a null entity or an unresolvable
field. -/
def tryGet {α : Type} (head : Except RecvPropError Registry) (cell : Cell α)
    (entity : Option (List UInt8)) (f : Field) : Lookup (Option α × Field) := do
  match entity with
  | none => pure (none, f)
  | some block =>
    let (o, f) ← f.tryOffset head
    pure (o.map (loadAt cell block), f)

/-- Writes the field in an entity's memory: the new memory, or none, with nothing written, for a
null entity or an unresolvable field. -/
def trySet {α : Type} (head : Except RecvPropError Registry) (cell : Cell α)
    (entity : Option (List UInt8)) (v : α) (f : Field) : Lookup (Option (List UInt8) × Field) := do
  match entity with
  | none => pure (none, f)
  | some block =>
    let (o, f) ← f.tryOffset head
    pure (o.map (storeAt cell block · v), f)

/-- The value of the field in an entity's memory; stops the call when unresolvable. -/
def get {α : Type} (head : Except RecvPropError Registry) (cell : Cell α) (block : List UInt8)
    (f : Field) : Lookup (α × Field) := do
  let (o, f) ← f.offset head
  pure (loadAt cell block o, f)

/-- Writes the field in an entity's memory; stops the call when unresolvable. -/
def set {α : Type} (head : Except RecvPropError Registry) (cell : Cell α) (block : List UInt8)
    (v : α) (f : Field) : Lookup (List UInt8 × Field) := do
  let (o, f) ← f.offset head
  pure (storeAt cell block o v, f)

end Field

end EngineSdk.Netvar
