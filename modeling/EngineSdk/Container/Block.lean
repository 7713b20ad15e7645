/-!
# Blocks of external elements

The engine's containers keep their elements in a block that someone else allocated.  A
`Block α` is such a block: the whole backing storage, the number of elements the block spans,
and how it was handed over (not at all, writable, or constant).  The engine marks the last two
with negative grow sizes, `-1` and `-2`.  Counts are kept in signed 32-bit fields, as the
engine's structs have them: a count handed over is cut to its low 32 bits, and a negative count
reads as zero.

On top of a block, `BlockVec` is a vector whose first `size` elements are in use, and
`LinkedSlots` a doubly linked list threaded through the block by 16-bit indices.
-/

namespace EngineSdk

/-- How a block's storage was handed over. -/
inductive BlockOrigin where
  /-- No storage: the empty block. -/
  | none
  /-- External writable storage. -/
  | external
  /-- External constant storage. -/
  | externalConst
deriving DecidableEq, Repr

/-- The grow size that marks external writable storage. -/
def externalMarker : Int := -1

/-- The grow size that marks external constant storage. -/
def externalConstMarker : Int := -2

/-- A block of elements over external storage. -/
structure Block (α : Type) where
  /-- The whole backing storage. -/
  storage : List α
  /-- How many elements the block spans, as the engine records it. -/
  allocationCount : Int32
  origin : BlockOrigin
deriving Repr

namespace Block

variable {α : Type}

/-- The empty block, with no storage. -/
def empty : Block α := ⟨[], 0, .none⟩

/-- The block over the first `count` elements of writable external storage. -/
def ofExternal (storage : List α) (count : Nat) : Block α :=
  ⟨storage, Int32.ofNat count, .external⟩

/-- The block over the first `count` elements of constant external storage. -/
def ofExternalConst (storage : List α) (count : Nat) : Block α :=
  ⟨storage, Int32.ofNat count, .externalConst⟩

/-- How many elements the block spans: the recorded count, none when it is negative. -/
def count (b : Block α) : Nat := b.allocationCount.toInt.toNat

/-- The grow size the engine records: `0` for the empty block, `externalMarker` for external and
`externalConstMarker` for constant external storage. -/
def growSize (b : Block α) : Int :=
  match b.origin with
  | .none => 0
  | .external => externalMarker
  | .externalConst => externalConstMarker

/-- The storage belongs to someone else. -/
def isExternal (b : Block α) : Bool := b.growSize < 0

/-- The storage must not be written. -/
def isReadOnly (b : Block α) : Bool := b.origin == .externalConst

/-- There is no storage. -/
def isNull (b : Block α) : Bool := b.origin == .none

/-- `i` lies within the block. -/
def isIndexValid (b : Block α) (i : Nat) : Bool := i < b.count

/-- The element at `i`, inside the block. -/
def get? (b : Block α) (i : Nat) : Option α :=
  if b.isNull || !b.isIndexValid i then none else b.storage[i]?

/-- The block with element `i` replaced, when it lies inside a writable block. -/
def set? (b : Block α) (i : Nat) (v : α) : Option (Block α) :=
  if b.isNull || b.isReadOnly || !b.isIndexValid i then none
  else some { b with storage := b.storage.set i v }

/-- The elements the block spans. -/
def toList (b : Block α) : List α := if b.isNull then [] else b.storage.take b.count

end Block

/-- A vector whose elements live in a block, with the first `size` in use. -/
structure BlockVec (α : Type) where
  block : Block α
  /-- How many elements are in use, as the engine records it. -/
  size : Int32
deriving Repr

namespace BlockVec

variable {α : Type}

/-- The vector with no storage. -/
def empty : BlockVec α := ⟨Block.empty, 0⟩

/-- A vector over the first `capacity` elements of `storage` with `size` of them in use, at
most all. -/
def external (storage : List α) (capacity size : Nat) : BlockVec α :=
  ⟨Block.ofExternal storage capacity, Int32.ofNat (min size capacity)⟩

/-- The number of elements in use: the recorded size, none when it is negative, and no more
than the block spans. -/
def length (v : BlockVec α) : Nat := min v.size.toInt.toNat v.block.count

/-- The number of elements the storage can hold. -/
def capacity (v : BlockVec α) : Nat := v.block.count

/-- The element at `i`, when it is in use. -/
def get? (v : BlockVec α) (i : Nat) : Option α :=
  if i < v.length then v.block.get? i else none

/-- The vector with element `i` replaced, when it is in use. -/
def set? (v : BlockVec α) (i : Nat) (x : α) : Option (BlockVec α) :=
  if i < v.length then (v.block.set? i x).map fun b => { v with block := b } else none

/-- The elements in use, in order. -/
def toList (v : BlockVec α) : List α := v.block.toList.take v.length

/-- The first index holding `x`. -/
def find? [BEq α] (v : BlockVec α) (x : α) : Option Nat := v.toList.idxOf? x

/-- The elements in use between brackets, separated by commas, each as `write` gives it. -/
def describe (write : α → String) (v : BlockVec α) : String :=
  "[" ++ ", ".intercalate (v.toList.map write) ++ "]"

end BlockVec

/-- The index that names no node. -/
def noNode : UInt16 := 0xFFFF

/-- A node of a linked list: an element and the indices of its neighbours. -/
structure LinkNode (α : Type) where
  element : α
  previous : UInt16
  next : UInt16
deriving Repr, DecidableEq

/-- A doubly linked list threaded through a block of nodes by 16-bit indices.  The count is kept
in 16 bits. -/
structure LinkedSlots (α : Type) where
  nodes : Block (LinkNode α)
  head : UInt16
  tail : UInt16
  count : UInt16
deriving Repr

namespace LinkedSlots

variable {α : Type}

/-- The list with no storage and no nodes. -/
def empty : LinkedSlots α := ⟨Block.empty, noNode, noNode, 0⟩

/-- A list over the first `capacity` nodes of `storage`, a block count like any other; the
element count keeps its low 16 bits. -/
def external (storage : List (LinkNode α)) (capacity : Nat) (head tail : UInt16) (count : Nat) :
    LinkedSlots α :=
  ⟨Block.ofExternal storage capacity, head, tail, count.toUInt16⟩

/-- The number of elements the list claims to hold. -/
def length (l : LinkedSlots α) : Nat := l.count.toNat

/-- The node at index `i`; none for `noNode` or outside the block. -/
def node? (l : LinkedSlots α) (i : UInt16) : Option (LinkNode α) :=
  if i = noNode then none else l.nodes.get? i.toNat

/-- The element of node `i`; none when there is no node `i`. -/
def element? (l : LinkedSlots α) (i : UInt16) : Option α := (l.node? i).map LinkNode.element

/-- The index after `i`, or `noNode` when there is no node `i`. -/
def next (l : LinkedSlots α) (i : UInt16) : UInt16 := ((l.node? i).map LinkNode.next).getD noNode

/-- The index before `i`, or `noNode` when there is no node `i`. -/
def previous (l : LinkedSlots α) (i : UInt16) : UInt16 :=
  ((l.node? i).map LinkNode.previous).getD noNode

/-- At most `steps` elements from index `i` on, following the next links and stopping at a
missing node. -/
def walk (l : LinkedSlots α) : Nat → UInt16 → List α
  | 0, _ => []
  | steps + 1, i =>
    match l.node? i with
    | none => []
    | some n => n.element :: l.walk steps n.next

/-- The elements from the head, at most as many as the count. -/
def toList (l : LinkedSlots α) : List α := l.walk l.length l.head

end LinkedSlots

end EngineSdk
