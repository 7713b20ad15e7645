import EngineSdk.Entity.Handle
import EngineSdk.Panic

/-!
# The client entity list

The engine's client entity list answers, through its virtual methods, the entity in a slot, the
entity a handle names, the number of entities and the highest and largest slot indices.  A
method can be missing (a null vtable entry), and so can the whole list; `EntityList ε` holds
the methods the list offers, for entities of type `ε`.

The SDK asks no method for a negative index or an invalid handle.  It walks the list from slot
`0` to the highest index, skipping empty slots; without a highest index there is nothing to
walk.  An `EntityWalk` is such a walk, called again and again: each call asks for slots from its
cursor on until one is occupied, moving the cursor past each slot before asking for it, in 32-bit
signed arithmetic.
-/

namespace EngineSdk

/-- The methods of an entity list, each none when missing. -/
structure EntityList (ε : Type) where
  /-- The networkable part of the entity in a slot. -/
  networkable : Option (Int → Option ε)
  /-- The entity in a slot. -/
  entity : Option (Int → Option ε)
  /-- The entity a raw handle names. -/
  fromHandle : Option (UInt32 → Option ε)
  /-- The number of entities, with or without the non-networkable ones. -/
  count : Option (Bool → Int)
  /-- The highest slot index in use. -/
  highest : Option Int
  /-- The number of slots. -/
  max : Option Int

namespace EntityList

variable {ε : Type}

/-- The list with every method missing. -/
def blank : EntityList ε := ⟨none, none, none, none, none, none⟩

/-- The entity in slot `index`; none for a negative index. -/
def get (l : EntityList ε) (index : Int) : Option ε :=
  if index < 0 then none else l.entity.bind (· index)

/-- The entity a handle names; none for the invalid handle. -/
def ofHandle (l : EntityList ε) (h : EntityHandle) : Option ε :=
  if h.isValid then l.fromHandle.bind (· h.raw) else none

/-- The networkable part of the entity in a slot. -/
def getNetworkable (l : EntityList ε) (index : Int) : Option ε := l.networkable.bind (· index)

/-- The highest slot index, `-1` when unknown. -/
def highestIndex (l : EntityList ε) : Int := l.highest.getD (-1)

/-- The number of entities, `0` when unknown. -/
def number (l : EntityList ε) (includeNonNetworkable : Bool) : Int :=
  (l.count.map (· includeNonNetworkable)).getD 0

/-- The number of slots, `0` when unknown. -/
def maxEntities (l : EntityList ε) : Int := l.max.getD 0

/-- The occupied slots from `0` to the highest index, with their entities. -/
def entries (l : EntityList ε) : List (Int × ε) :=
  (List.range (l.highestIndex + 1).toNat).filterMap fun (i : Nat) =>
    (l.get i).map fun e => ((i : Int), e)

/-- What a walk over the list finds when it is called until it reports the end: the occupied
slots from `0` to the highest index, unless that index is the largest 32-bit value, where moving
the cursor past it stops the walk. -/
def walked (l : EntityList ε) : Except Panic (List (Int × ε)) :=
  if 2147483647 ≤ l.highestIndex then .error .addOverflow else .ok l.entries

end EntityList

/-- A walk over the occupied slots of a list: the slot it asks for next and the highest slot it
asks for, both 32-bit signed values. -/
structure EntityWalk where
  current : Int
  highest : Int
deriving Repr, DecidableEq

namespace EntityWalk

/-- What one call of a walk gives: the occupied slot it found, with its entity, or none once the
walk is over; the slots it asked the list for, in order; and the walk after the call. -/
structure Step (ε : Type) where
  found : Option (Int × ε)
  asked : List Int
  rest : EntityWalk

variable {ε : Type}

/-- The walk over a list, from slot `0` to the list's highest index. -/
def start (l : EntityList ε) : EntityWalk := ⟨0, l.highestIndex⟩

/-- The walk over no list, which finds nothing. -/
def empty : EntityWalk := ⟨0, -1⟩

/-- One call of a walk: it asks the list for the slots from its cursor on, up to the highest,
until one is occupied.  The cursor is moved past a slot before the slot is asked for, as a 32-bit
signed sum, so a call that comes to the largest 32-bit value stops there. -/
def next (l : EntityList ε) (w : EntityWalk) : Except Panic (Step ε) :=
  if _hle : w.current ≤ w.highest then
    match _hc : Panic.addSigned 32 w.current 1 with
    | .error p => .error p
    | .ok c =>
      match l.get w.current with
      | some e => .ok ⟨some (w.current, e), [w.current], ⟨c, w.highest⟩⟩
      | none => (next l ⟨c, w.highest⟩).map fun s => { s with asked := w.current :: s.asked }
  else .ok ⟨none, [], w⟩
termination_by (w.highest + 1 - w.current).toNat
decreasing_by
  -- the cursor has moved one slot on
  unfold Panic.addSigned at _hc
  dsimp only at _hc ⊢
  split at _hc
  · cases _hc
  · cases _hc
    omega

end EntityWalk

end EngineSdk
