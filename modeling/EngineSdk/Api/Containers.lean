import EngineSdk.Api.Basic
import EngineSdk.Container.ByteBuffer
import EngineSdk.Container.Block

/-!
# Requests on buffers and containers

Each request builds a container over given memory and runs a list of steps on it; every
step answers on its own, and a refused step leaves the container as it was.
-/

namespace EngineSdk.Api

/-- The state of a byte buffer as answered. -/
def bufState (b : ByteBuffer) : Json :=
  .obj [("get", Json.int b.get), ("put", Json.int b.put), ("max_put", Json.int b.maxPut),
    ("error", Json.int b.error.toNat)]

/-- The answer of a buffer operation that may stop: its value, or the stop, with the buffer as
the operation left it either way. -/
def bufOut {α : Type} (out : α → Json) (r : Except Panic α × ByteBuffer) :
    Reply (Reply Json × ByteBuffer) :=
  pure (ofPanic (r.1.map out), r.2)

/-- One step on a byte buffer: a refusal of its arguments, or its answer and the buffer after
it. -/
def bufStep (b : ByteBuffer) (step : Json) : Reply (Reply Json × ByteBuffer) := do
  let v : Reply Json := need step "v"
  let same (j : Json) : Reply (Reply Json × ByteBuffer) := pure (.ok j, b)
  let int := fun (n : Nat) => Json.int n
  match ← strIn (← need step "op") with
  | "get_u8" => bufOut (optJson int) b.getU8
  | "get_i16" => bufOut (optJson Json.int) b.getI16
  | "get_i32" => bufOut (optJson Json.int) b.getI32
  | "get_u32" => bufOut (optJson int) b.getU32
  | "get_f32" => bufOut (optJson fun u => f32Out (Float32.ofBits u)) b.getF32Bits
  | "get_f64" => bufOut (optJson f64Out) b.getF64
  | "get_bytes" => bufOut (optJson hexOut) (b.getBytes (← natIn (← need step "n")))
  | "get_cstring" => bufOut (optJson .str) b.getCString
  | "put_u8" =>
    let n ← natIn (← v)
    if n < 256 then bufOut .bool (b.putU8 n.toUInt8) else refuse "v is a u8"
  | "put_i32" => bufOut .bool (b.putI32 (← i32In "v" (← v)))
  | "put_f32" => bufOut .bool (b.putF32Bits (← f32BitsIn (← v)))
  | "put_bytes" => bufOut .bool (b.putBytes (← hexIn (← v)))
  | "put_cstring" => bufOut .bool (b.putCString (← strIn (← v)))
  | "seek_get" =>
    let (r, b) := b.seekGet (← intIn (← need step "pos"))
    pure (.ok (.bool r), b)
  | "clear_errors" => pure (.ok .null, b.clearErrors)
  | "tell_get" => same (Json.int b.get)
  | "tell_put" => same (Json.int b.put)
  | "tell_max_put" => same (Json.int b.maxPut)
  | "bytes_remaining" => same (int b.remaining)
  | "is_valid" => same (.bool b.isValid)
  | "error_bits" => same (int b.error.toNat)
  | "flags" => same (int b.flags.toNat)
  | "is_text" => same (.bool b.isText)
  | "is_read_only" => same (.bool b.isReadOnly)
  | "data" => same (hexOut b.data)
  | "debug" => same (.str b.describe)
  | _ => refuse "unknown buffer op"

/-- An answer as written in a step: the value, or the failure. -/
def replyJson (r : Reply Json) : Json :=
  match r with
  | .ok j => j
  | .error f => failJson f

/-- A `buffer` request: steps on a byte buffer. -/
def bufferOp (req : Json) : Reply Json := do
  let data ← match req.get? "data" with
    | some d => hexIn d
    | none => pure []
  let size ← match req.get? "size" with
    | some s => natIn s
    | none => pure data.length
  if size < data.length ∨ size > 1048576 then refuse "size must be >= data length and <= 1 MiB" else
  let put ← match req.get? "put" with
    | some p => natIn p
    | none => pure data.length
  let flags ← match req.get? "flags" with
    | some f => natIn f
    | none => pure 0
  let memory := data ++ List.replicate (size - data.length) 0
  let start := ByteBuffer.external memory put flags.toUInt8
  let (steps, b) := (← arrIn (← need req "ops")).foldl (fun (acc, b) step =>
      match bufStep b step with
      | .ok (r, b') => (acc ++ [Json.obj [("result", replyJson r), ("state", bufState b')]], b')
      | .error f => (acc ++ [Json.obj [("result", failJson f), ("state", bufState b)]], b))
    ([Json.obj [("result", .null), ("state", bufState start)]], start)
  return .obj [("steps", .arr steps), ("memory", hexOut b.memory)]

/-- One step on a growable memory block. -/
def blockStep (m : Block Int) (step : Json) : Reply (Json × Block Int) := do
  let same (j : Json) : Reply (Json × Block Int) := pure (j, m)
  let i : Reply Nat := do natIn (← need step "i")
  match ← strIn (← need step "op") with
  | "count" => same (Json.int m.count)
  | "grow_size" => same (Json.int m.growSize)
  | "is_externally_allocated" => same (.bool m.isExternal)
  | "is_read_only" => same (.bool m.isReadOnly)
  | "is_null" => same (.bool m.isNull)
  | "is_idx_valid" => same (.bool (m.isIndexValid (← i)))
  | "get" => same (optJson Json.int (m.get? (← i)))
  | "set" =>
    match m.set? (← i) (← i32In "v" (← need step "v")) with
    | some m' => pure (.bool true, m')
    | none => same (.bool false)
  | "as_slice" => same (.arr (m.toList.map Json.int))
  | _ => refuse "unknown memory op"

/-- A `utl_memory` request: steps on a growable memory block. -/
def utlMemoryOp (req : Json) : Reply Json := do
  let m ← if flagIn req "empty" then pure Block.empty else do
    let data ← i32List (← need req "data")
    let count ← match req.get? "count" with
      | some c => natIn c
      | none => pure data.length
    if count > data.length then refuse "count must be <= data length" else
    pure (if flagIn req "const" then Block.ofExternalConst data count
      else Block.ofExternal data count)
  let (steps, m) := runSteps m (← arrIn (← need req "ops")) blockStep
  return .obj [("steps", .arr steps), ("backing", .arr (m.storage.map Json.int))]

/-- One step on a vector over a memory block. -/
def vecStep (v : BlockVec Int) (step : Json) : Reply (Json × BlockVec Int) := do
  let same (j : Json) : Reply (Json × BlockVec Int) := pure (j, v)
  let i : Reply Nat := do natIn (← need step "i")
  let ints (xs : List Int) : Json := .arr (xs.map Json.int)
  match ← strIn (← need step "op") with
  | "len" => same (Json.int v.length)
  | "is_empty" => same (.bool (v.length == 0))
  | "capacity" => same (Json.int v.capacity)
  | "get" => same (optJson Json.int (v.get? (← i)))
  | "set" =>
    match v.set? (← i) (← i32In "v" (← need step "v")) with
    | some v' => pure (.bool true, v')
    | none => same (.bool false)
  | "find" => same (optJson Json.int (v.find? (← i32In "v" (← need step "v"))))
  | "as_slice" | "iter" => same (ints v.toList)
  | "is_consistent" => same (.bool true)
  | "debug" => same (.str (v.describe Decimal.intText))
  | "memory_count" => same (Json.int v.block.count)
  | "memory_grow_size" => same (Json.int v.block.growSize)
  | _ => refuse "unknown vector op"

/-- A `utl_vector` request: steps on a vector over a memory block. -/
def utlVectorOp (req : Json) : Reply Json := do
  let v ← if flagIn req "empty" then pure BlockVec.empty else do
    let data ← i32List (← need req "data")
    let cap ← match req.get? "capacity" with
      | some c => natIn c
      | none => pure data.length
    if cap > data.length then refuse "capacity must be <= data length" else
    let size ← match req.get? "size" with
      | some c => natIn c
      | none => pure cap
    pure (BlockVec.external data cap size)
  let (steps, v) := runSteps v (← arrIn (← need req "ops")) vecStep
  return .obj [("steps", .arr steps), ("backing", .arr (v.block.storage.map Json.int))]

/-- One step on a linked list in slots. -/
def listStep (l : LinkedSlots Nat) (step : Json) : Reply (Json × LinkedSlots Nat) := do
  let same (j : Json) : Reply (Json × LinkedSlots Nat) := pure (j, l)
  let i : Reply UInt16 := do u16In (← need step "i")
  let idx (x : UInt16) : Json := Json.int x.toNat
  match ← strIn (← need step "op") with
  | "len" => same (Json.int l.length)
  | "is_empty" => same (.bool (l.length == 0))
  | "head" => same (idx l.head)
  | "tail" => same (idx l.tail)
  | "node" => same (optJson (fun n => .arr [Json.int n.element, idx n.previous, idx n.next]) (l.node? (← i)))
  | "element" => same (optJson (fun (e : Nat) => Json.int e) (l.element? (← i)))
  | "next" => same (idx (l.next (← i)))
  | "previous" => same (idx (l.previous (← i)))
  | "iter" => same (.arr (l.toList.map fun (e : Nat) => Json.int e))
  | "into_iter" => same (Json.int l.toList.length)
  | _ => refuse "unknown list op"

/-- A `linked_list` request: steps on a linked list in slots. -/
def linkedListOp (req : Json) : Reply Json := do
  let l ← if flagIn req "empty" then pure LinkedSlots.empty else do
    let nodes ← (← arrIn (← need req "nodes")).mapM fun n => do
      match ← arrIn n with
      | [e, p, x] => pure (LinkNode.mk (← natIn e) (← u16In p) (← u16In x))
      | _ => refuse "a node is [element, previous, next]"
    let cap ← match req.get? "capacity" with
      | some c => natIn c
      | none => pure nodes.length
    if cap > nodes.length then refuse "capacity must be <= node count" else
    pure (LinkedSlots.external nodes cap (← u16In (← need req "head")) (← u16In (← need req "tail"))
      (← natIn (← need req "count")))
  let (steps, _) := runSteps l (← arrIn (← need req "ops")) listStep
  return .obj [("steps", .arr steps)]

end EngineSdk.Api
