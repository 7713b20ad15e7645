import EngineSdk.Bytes.LittleEndian
import EngineSdk.Text.Utf8
import EngineSdk.Panic

/-!
# Byte buffers over external memory

A `ByteBuffer` reads and writes little-endian values in a block of memory it does not own.
Two cursors move forward through the block: reads take bytes from `get` up to `put`, writes
append bytes at `put` up to the end of the block.  The highest `put` reached is kept as
`maxPut`.

The cursors are 32-bit signed integers, and so is the block's size as the buffer keeps it: a
larger size wraps.  Cursors move by checked sums that stop the call when they leave the 32-bit
range; the block is read through ranges checked against its size, a range outside it reading
as nothing; a write skips every index past the size.  Each operation gives its outcome, a value
or the stop, together with the buffer as the operation left it.

A read that cannot be served (the buffer already has an error, or too few bytes lie between
`get` and `put`) changes nothing but the error bits, where it sets `getOverflow`.  A write that
cannot be served (the buffer is read-only, or the bytes do not fit in the block) writes
nothing and sets `putOverflow`.  A string read looks for a NUL before `put`; without one it
fails like any other read.  Binary32 values are read and written as their bits.
-/

namespace EngineSdk

/-- `v as i32`: the low 32 bits of `v`, read as two's complement. -/
def wrapI32 (v : Int) : Int := LittleEndian.toSigned 32 (v % (Nat.pow 2 32 : Int)).toNat

/-- `v as usize` for a 32-bit signed `v`: a negative value wraps to the top of the 64-bit
range. -/
def usizeOfI32 (v : Int) : Nat := if v < 0 then (v + (Nat.pow 2 64 : Int)).toNat else v.toNat

/-- `bytes` written into `m` from index `i` on; an index at or past `count` is skipped. -/
def storeFrom (count : Nat) : List UInt8 → Nat → List UInt8 → List UInt8
  | m, _, [] => m
  | m, i, v :: vs => storeFrom count (if i < count then m.set i v else m) (i + 1) vs

/-! Flag bits of a byte buffer. -/
namespace BufferFlags

/-- The buffer holds text. -/
def text : UInt8 := 0x1
/-- The external memory may be grown. -/
def externalGrowable : UInt8 := 0x2
/-- Text lines end in carriage return and line feed. -/
def containsCrlf : UInt8 := 0x4
/-- The memory must not be written. -/
def readOnly : UInt8 := 0x8
/-- Text output does not indent. -/
def autoTabsDisabled : UInt8 := 0x10

end BufferFlags

/-! Error bits of a byte buffer. -/
namespace BufferErrors

/-- A read failed. -/
def getOverflow : UInt8 := 0x1
/-- A write failed. -/
def putOverflow : UInt8 := 0x2

end BufferErrors

/-- A reader and writer of bytes over a block of external memory. -/
structure ByteBuffer where
  /-- The whole block. -/
  memory : List UInt8
  /-- Where the next read starts, a 32-bit signed number. -/
  get : Int
  /-- Where the next write starts, a 32-bit signed number; reads stop here. -/
  put : Int
  /-- The highest write position reached. -/
  maxPut : Int
  /-- Error bits, see `BufferErrors`. -/
  error : UInt8
  /-- Flag bits, see `BufferFlags`. -/
  flags : UInt8
  /-- The block was handed over as constant memory. -/
  constMemory : Bool
deriving Repr, DecidableEq

namespace ByteBuffer

/-- A buffer over `memory` with `put` bytes already written (at most the whole block); the
memory is constant when `flags` has `readOnly`. -/
def external (memory : List UInt8) (put : Nat) (flags : UInt8) : ByteBuffer :=
  let put := wrapI32 (min put memory.length)
  { memory := memory
    get := 0
    put := put
    maxPut := put
    error := 0
    flags := flags
    constMemory := flags &&& BufferFlags.readOnly != 0 }

/-- The size of the block as the buffer keeps it: the length as a 32-bit signed count, a
negative count read as none. -/
def size (b : ByteBuffer) : Nat := (wrapI32 b.memory.length).toNat

/-- The block as the buffer sees it: its first `size` bytes. -/
def block (b : ByteBuffer) : List UInt8 := b.memory.take b.size

/-- The bytes `[start, stop)` of the block, when the range lies within it. -/
def range? (b : ByteBuffer) (start stop : Nat) : Option (List UInt8) :=
  if start ≤ stop ∧ stop ≤ b.block.length then some ((b.block.take stop).drop start) else none

/-- The bytes between the read and write positions: `put - get`, none when negative. -/
def remaining (b : ByteBuffer) : Nat := (b.put - b.get).toNat

/-- No error bit is set. -/
def isValid (b : ByteBuffer) : Bool := b.error == 0

/-- The buffer holds text. -/
def isText (b : ByteBuffer) : Bool := b.flags &&& BufferFlags.text != 0

/-- Writes are refused: by flag or because the memory is constant. -/
def isReadOnly (b : ByteBuffer) : Bool := b.flags &&& BufferFlags.readOnly != 0 || b.constMemory

/-- The buffer with no error bits. -/
def clearErrors (b : ByteBuffer) : ByteBuffer := { b with error := 0 }

/-- The bytes written so far: the block up to `put`. -/
def data (b : ByteBuffer) : List UInt8 := b.block.take b.put.toNat

/-- Moves the read position to `pos`, which must lie between the start and `put`. -/
def seekGet (b : ByteBuffer) (pos : Int) : Bool × ByteBuffer :=
  if pos < 0 ∨ pos > b.put then (false, b) else (true, { b with get := pos })

/-- Takes the next `n` bytes, or fails with `getOverflow`.  The read position moves before the
range is read, and a range outside the block reads as nothing. -/
def take (b : ByteBuffer) (n : Nat) : Except Panic (Option (List UInt8)) × ByteBuffer :=
  if b.error ≠ 0 ∨ b.remaining < n then
    (.ok none, { b with error := b.error ||| BufferErrors.getOverflow })
  else
    let start := usizeOfI32 b.get
    match Panic.addSigned 32 b.get (wrapI32 n) with
    | .error p => (.error p, b)
    | .ok get =>
      let b := { b with get := get }
      match Panic.addUnsigned 64 start n with
      | .error p => (.error p, b)
      | .ok stop => (.ok (b.range? start stop), b)

/-- Reads an `n`-byte little-endian value and decodes it with `f`. -/
def readWith {α : Type} (b : ByteBuffer) (n : Nat) (f : List UInt8 → α) :
    Except Panic (Option α) × ByteBuffer :=
  let (bytes, b') := b.take n
  ((fun o => o.map f) <$> bytes, b')

/-- Reads an unsigned byte. -/
def getU8 (b : ByteBuffer) : Except Panic (Option Nat) × ByteBuffer :=
  b.readWith 1 LittleEndian.toNat

/-- Reads a signed 16-bit integer. -/
def getI16 (b : ByteBuffer) : Except Panic (Option Int) × ByteBuffer :=
  b.readWith 2 fun bs => LittleEndian.toSigned 16 (LittleEndian.toNat bs)

/-- Reads a signed 32-bit integer. -/
def getI32 (b : ByteBuffer) : Except Panic (Option Int) × ByteBuffer :=
  b.readWith 4 fun bs => LittleEndian.toSigned 32 (LittleEndian.toNat bs)

/-- Reads an unsigned 32-bit integer. -/
def getU32 (b : ByteBuffer) : Except Panic (Option Nat) × ByteBuffer :=
  b.readWith 4 LittleEndian.toNat

/-- Reads a binary32 value, as its bits. -/
def getF32Bits (b : ByteBuffer) : Except Panic (Option UInt32) × ByteBuffer :=
  b.readWith 4 fun bs => (LittleEndian.toNat bs).toUInt32

/-- Reads a binary64 value. -/
def getF64 (b : ByteBuffer) : Except Panic (Option Float) × ByteBuffer :=
  b.readWith 8 fun bs => Float.ofBits (LittleEndian.toNat bs).toUInt64

/-- Reads `n` raw bytes. -/
def getBytes (b : ByteBuffer) (n : Nat) : Except Panic (Option (List UInt8)) × ByteBuffer :=
  b.take n

/-- Reads a NUL-terminated string; the NUL is taken too, and ill-formed UTF-8 reads as U+FFFD.
Fails with `getOverflow` when the buffer has an error or no NUL lies before `put`; a window
from `get` to `put` outside the block gives nothing and leaves the buffer as it was. -/
def getCString (b : ByteBuffer) : Except Panic (Option String) × ByteBuffer :=
  let fail : Except Panic (Option String) × ByteBuffer :=
    (.ok none, { b with error := b.error ||| BufferErrors.getOverflow })
  if b.error ≠ 0 then fail
  else
    match b.range? b.get.toNat b.put.toNat with
    | none => (.ok none, b)
    | some window =>
      match window.idxOf? 0 with
      | none => fail
      | some nul =>
        match Panic.addSigned 32 (wrapI32 nul) 1 with
        | .error p => (.error p, b)
        | .ok step =>
          match Panic.addSigned 32 b.get step with
          | .error p => (.error p, b)
          | .ok get => (.ok (some (Utf8.decodeLossy (window.take nul))), { b with get := get })

/-- Appends bytes at `put`, or fails with `putOverflow` when the buffer is read-only or the
bytes would pass the end of the block.  The bytes are stored before `put` moves.  The end of the
bytes, `put` plus their count, cannot leave the machine word: `put` is a 32-bit number and a
slice holds fewer than `2 ^ 63` bytes. -/
def putBytes (b : ByteBuffer) (bytes : List UInt8) : Except Panic Bool × ByteBuffer :=
  let start := b.put.toNat
  if b.isReadOnly ∨ start + bytes.length > b.size then
    (.ok false, { b with error := b.error ||| BufferErrors.putOverflow })
  else
    let b := { b with memory := storeFrom b.size b.memory start bytes }
    match Panic.addSigned 32 b.put (wrapI32 bytes.length) with
    | .error p => (.error p, b)
    | .ok put => (.ok true, { b with put := put, maxPut := max b.maxPut put })

/-- Appends one byte. -/
def putU8 (b : ByteBuffer) (v : UInt8) : Except Panic Bool × ByteBuffer := b.putBytes [v]

/-- Appends a signed 32-bit integer. -/
def putI32 (b : ByteBuffer) (v : Int) : Except Panic Bool × ByteBuffer :=
  b.putBytes (LittleEndian.ofInt 4 v)

/-- Appends a binary32 value given by its bits. -/
def putF32Bits (b : ByteBuffer) (bits : UInt32) : Except Panic Bool × ByteBuffer :=
  b.putBytes (LittleEndian.ofNat 4 bits.toNat)

/-- Appends the UTF-8 bytes of a string and a NUL. -/
def putCString (b : ByteBuffer) (s : String) : Except Panic Bool × ByteBuffer :=
  b.putBytes (s.toUTF8.toList ++ [0])

/-- `UtlBuffer { get: G, put: P, error: E, flags: 0xF }`, with the flags in hexadecimal. -/
def describe (b : ByteBuffer) : String :=
  let flagDigits := String.ofList (Nat.toDigits 16 b.flags.toNat)
  "UtlBuffer \x7b get: " ++ toString b.get ++ ", put: " ++ toString b.put ++ ", error: "
    ++ toString b.error.toNat ++ ", flags: 0x" ++ flagDigits ++ " \x7d"

end ByteBuffer

end EngineSdk
