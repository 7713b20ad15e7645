import EngineSdk.Bytes.LittleEndian

/-!
# Typed cells of memory

A `Cell α` says how a value of type `α` lies in memory: how many bytes it takes and how it is
read from and written to them, little-endian.  `Cell.load` and `Cell.store` read and write a
value at a byte offset of a block.  A block is a list of bytes; what lies past its end reads as
zero, and bytes written past its end are dropped, so both are total.
-/

namespace EngineSdk

/-- The layout of a value in memory. -/
structure Cell (α : Type) where
  /-- The number of bytes. -/
  width : Nat
  /-- The value held by `width` bytes. -/
  decode : List UInt8 → α
  /-- The `width` bytes of a value. -/
  encode : α → List UInt8

namespace Cell

variable {α : Type}

/-- A signed 32-bit integer. -/
def i32 : Cell Int := ⟨4, fun bs => LittleEndian.toSigned 32 (LittleEndian.toNat bs), LittleEndian.ofInt 4⟩

/-- An unsigned 32-bit integer. -/
def u32 : Cell Nat := ⟨4, LittleEndian.toNat, LittleEndian.ofNat 4⟩

/-- An unsigned byte. -/
def u8 : Cell Nat := ⟨1, LittleEndian.toNat, LittleEndian.ofNat 1⟩

/-- An unsigned 64-bit integer. -/
def u64 : Cell Nat := ⟨8, LittleEndian.toNat, LittleEndian.ofNat 8⟩

/-- A binary32 number. -/
def f32 : Cell Float32 :=
  ⟨4, fun bs => Float32.ofBits (LittleEndian.toNat bs).toUInt32,
    fun x => LittleEndian.ofNat 4 x.toBits.toNat⟩

/-- The `n` bytes of a block from `offset` on; bytes past the end read as zero. -/
def slice (block : List UInt8) (offset n : Nat) : List UInt8 :=
  let got := (block.drop offset).take n
  got ++ List.replicate (n - got.length) 0

/-- The value at `offset` of a block. -/
def load (c : Cell α) (block : List UInt8) (offset : Nat) : α :=
  c.decode (slice block offset c.width)

/-- The block with `bytes` written from `offset` on; bytes past its end are dropped. -/
def writeBytes (block : List UInt8) (offset : Nat) (bytes : List UInt8) : List UInt8 :=
  (block.zipIdx).map fun (b, i) =>
    if offset ≤ i ∧ i < offset + bytes.length then bytes.getD (i - offset) b else b

/-- The block with `v` written at `offset`. -/
def store (c : Cell α) (block : List UInt8) (offset : Nat) (v : α) : List UInt8 :=
  writeBytes block offset (c.encode v)

@[simp] theorem length_writeBytes (block : List UInt8) (offset : Nat) (bytes : List UInt8) :
  (writeBytes block offset bytes).length = block.length
  := by
  simp [writeBytes]

end Cell

end EngineSdk
