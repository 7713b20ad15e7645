import Mathlib.Logic.Relation
import EngineSdk.Container.ByteBuffer

/-!
# The shape of a byte buffer

A buffer made over a block of at most `2 ^ 31 - 1` bytes keeps `0 ≤ get ≤ put ≤` the block's
length and `maxPut = put` (`ByteBuffer.Inv`), whatever operations follow.  In such a state
none of the checked sums of an operation leaves its range and every range read lies within
the block, so each operation takes its plain form (`Inv.take_eq`, `Inv.getCString_eq`,
`Inv.putBytes_eq`): a read that gives nothing is a reported failure, a write stores its bytes
at `put` and moves `put` past them, and nothing stops.

What an operation can do is then one of three moves (`Moves`): set the error bits, move `get`
within `[0, put]`, or splice bytes in at `put` of a writable buffer and move `put` past them
(`Inv.step_moves`).  Every property of a run follows from the moves: a run never stops, keeps
the shape, changes memory only between the old and the new `put` of each write, and never
changes the memory of a read-only buffer (`external_run_in_shape`).
-/

namespace EngineSdk

/-! ### Machine arithmetic inside its range -/

theorem Panic.addSigned_eq_ok {a b : Int} (h1 : -2147483648 ≤ a + b) (h2 : a + b < 2147483648) :
  Panic.addSigned 32 a b = .ok (a + b)
  := by
  unfold Panic.addSigned
  dsimp only
  split
  · rename_i hout
    simp only [show Nat.pow 2 (32 - 1) = 2147483648 from rfl] at hout
    omega
  · rfl

theorem Panic.addUnsigned_eq_ok {a b : Nat} (h : a + b < 18446744073709551616) :
  Panic.addUnsigned 64 a b = .ok (a + b)
  := by
  unfold Panic.addUnsigned
  split
  · rename_i hout
    simp only [show Nat.pow 2 64 = 18446744073709551616 from rfl] at hout
    omega
  · rfl

theorem wrapI32_of_lt {v : Int} (h0 : 0 ≤ v) (h : v < 2147483648) : wrapI32 v = v := by
  have hmod : v % (Nat.pow 2 32 : Int) = v := by
    simp only [show Nat.pow 2 32 = 4294967296 from rfl]
    omega
  have hlt : v.toNat < 2147483648 := by omega
  simp only [wrapI32, hmod, LittleEndian.toSigned, show Nat.pow 2 (32 - 1) = 2147483648 from rfl,
    if_pos hlt]
  omega

theorem usizeOfI32_of_nonneg {v : Int} (h : 0 ≤ v) : usizeOfI32 v = v.toNat := by
  simp [usizeOfI32, show ¬ v < 0 by omega]

/-- Storing inside the count is splicing the bytes in. -/
theorem storeFrom_eq (count : Nat) (m : List UInt8) (i : Nat) (bytes : List UInt8)
    (hfit : i + bytes.length ≤ count) (hcount : count ≤ m.length) :
  storeFrom count m i bytes = m.take i ++ bytes ++ m.drop (i + bytes.length)
  := by
  induction bytes generalizing m i with
  | nil => simp [storeFrom]
  | cons v vs ih =>
    have hi : i < count := by simp at hfit; omega
    rw [storeFrom, if_pos hi, ih (m.set i v) (i + 1) (by simp at hfit; omega) (by simp; omega)]
    have htake : (m.set i v).take (i + 1) = m.take i ++ [v] := by
      rw [List.set_eq_take_append_cons_drop, if_pos (by omega)]
      simp [List.take_append, List.take_take, show min i m.length = i by omega]
    have hdrop : (m.set i v).drop (i + 1 + vs.length) = m.drop (i + (vs.length + 1)) := by
      rw [List.drop_set_of_lt (by omega)]
      congr 1
      omega
    rw [htake, hdrop]
    simp

namespace ByteBuffer

/-! ### The invariant -/

/-- What every buffer made over a block of at most `2 ^ 31 - 1` bytes keeps. -/
structure Inv (b : ByteBuffer) : Prop where
  /-- The block's length fits a 32-bit signed count. -/
  length_lt : b.memory.length < 2147483648
  get_nonneg : 0 ≤ b.get
  get_le_put : b.get ≤ b.put
  put_le_length : b.put ≤ b.memory.length
  /-- The highest write position is the current one. -/
  maxPut_eq : b.maxPut = b.put

variable {b : ByteBuffer}

/-- The bounds the invariant gives, in one piece for arithmetic. -/
theorem Inv.bounds (h : b.Inv) :
  0 ≤ b.get ∧ b.get ≤ b.put ∧ b.put ≤ b.memory.length ∧ b.memory.length < 2147483648
  :=
  ⟨h.get_nonneg, h.get_le_put, h.put_le_length, h.length_lt⟩

/-- In shape, `remaining` is the plain difference of the cursors. -/
theorem Inv.remaining_eq (h : b.Inv) : (b.remaining : Int) = b.put - b.get := by
  have := h.get_le_put
  unfold remaining
  omega

theorem size_of_lt (hlen : b.memory.length < 2147483648) : b.size = b.memory.length := by
  unfold size
  rw [wrapI32_of_lt (by omega) (by omega)]
  omega

theorem block_of_lt (hlen : b.memory.length < 2147483648) : b.block = b.memory := by
  unfold block
  rw [size_of_lt hlen]
  exact List.take_length

/-- Inside the block a range reads its bytes. -/
theorem range?_of_lt (hlen : b.memory.length < 2147483648) {start stop : Nat}
    (h1 : start ≤ stop) (h2 : stop ≤ b.memory.length) :
  b.range? start stop = some ((b.memory.take stop).drop start)
  := by
  unfold range?
  rw [block_of_lt hlen, if_pos ⟨h1, h2⟩]

/-- The bytes between the read and the write position. -/
def unread (b : ByteBuffer) : List UInt8 := (b.memory.take b.put.toNat).drop b.get.toNat

theorem Inv.length_unread (h : b.Inv) : b.unread.length = b.remaining := by
  obtain ⟨hget, hgp, hput, -⟩ := h.bounds
  simp [unread, remaining]
  omega

/-! ### Each operation in its plain form -/

/-- A read of `n` bytes either fails, setting `getOverflow` and nothing else, or gives the next
`n` bytes and moves `get` past them. -/
theorem Inv.take_eq (h : b.Inv) (n : Nat) :
  b.take n =
    if b.error ≠ 0 ∨ b.remaining < n then
      (.ok none, { b with error := b.error ||| BufferErrors.getOverflow })
    else (.ok (some (b.unread.take n)), { b with get := b.get + n })
  := by
  unfold take
  split
  · rfl
  · rename_i hok
    have hn : n ≤ b.remaining := by omega
    have hrem := h.remaining_eq
    obtain ⟨hget, hgp, hput, hlen⟩ := h.bounds
    have hstop : b.get.toNat + n ≤ b.memory.length := by omega
    rw [wrapI32_of_lt (by omega) (by omega), Panic.addSigned_eq_ok (by omega) (by omega)]
    dsimp only
    rw [usizeOfI32_of_nonneg hget, Panic.addUnsigned_eq_ok (by omega)]
    dsimp only
    rw [range?_of_lt (b := { b with get := b.get + n }) hlen (by omega) hstop]
    simp only [unread, List.drop_take, List.take_take]
    have hcount : b.get.toNat + n - b.get.toNat = min n (b.put.toNat - b.get.toNat) := by omega
    rw [hcount]

/-- In shape, the window a string read scans is the unread bytes. -/
theorem Inv.range?_unread (h : b.Inv) : b.range? b.get.toNat b.put.toNat = some b.unread := by
  obtain ⟨-, hgp, hput, hlen⟩ := h.bounds
  exact range?_of_lt hlen (by omega) (by omega)

/-- A string read fails, setting `getOverflow` and nothing else, unless a NUL lies among the
unread bytes; then it gives the bytes before the first NUL and moves `get` past the NUL. -/
theorem Inv.getCString_eq (h : b.Inv) :
    b.getCString =
      if b.error ≠ 0 then (.ok none, { b with error := b.error ||| BufferErrors.getOverflow })
      else
        match b.unread.idxOf? 0 with
        | none => (.ok none, { b with error := b.error ||| BufferErrors.getOverflow })
        | some nul =>
          (.ok (some (Utf8.decodeLossy (b.unread.take nul))), { b with get := b.get + nul + 1 }) := by
  unfold getCString
  dsimp only
  split
  · rfl
  · rw [h.range?_unread]
    dsimp only
    rcases hidx : b.unread.idxOf? 0 with _ | nul
    · rfl
    · obtain ⟨hnul, -, -⟩ := List.idxOf?_eq_some_iff.1 hidx
      have hrem : (nul : Int) < b.put - b.get := by
        rw [← h.remaining_eq, ← h.length_unread]
        omega
      obtain ⟨hget, -, hput, hlen⟩ := h.bounds
      dsimp only
      rw [wrapI32_of_lt (by omega) (by omega), Panic.addSigned_eq_ok (by omega) (by omega)]
      dsimp only
      rw [Panic.addSigned_eq_ok (by omega) (by omega), Int.add_assoc]

/-- A write fails, setting `putOverflow` and nothing else, when the buffer is read-only or the
bytes pass the end of the block; otherwise it splices them in at `put` and moves `put` (and
`maxPut`) past them. -/
theorem Inv.putBytes_eq (h : b.Inv) (bytes : List UInt8) :
  b.putBytes bytes =
    if b.isReadOnly ∨ b.put.toNat + bytes.length > b.memory.length then
      (.ok false, { b with error := b.error ||| BufferErrors.putOverflow })
    else
      (.ok true,
        { b with
          memory := b.memory.take b.put.toNat ++ bytes ++ b.memory.drop (b.put.toNat + bytes.length)
          put := b.put + bytes.length
          maxPut := b.put + bytes.length })
  := by
  unfold putBytes
  dsimp only
  rw [size_of_lt h.length_lt]
  split
  · rfl
  · rename_i hfit
    obtain ⟨hget, hgp, hput, hlen⟩ := h.bounds
    rw [storeFrom_eq _ b.memory b.put.toNat bytes (by omega) (Nat.le_refl _), wrapI32_of_lt (by omega) (by omega),
      Panic.addSigned_eq_ok (by omega) (by omega)]
    dsimp only
    rw [h.maxPut_eq, Int.max_eq_right (by omega)]

theorem readWith_eq {α : Type} (n : Nat) (f : List UInt8 → α) :
  b.readWith n f = ((b.take n).1.map (Option.map f), (b.take n).2)
  := rfl

/-! ### What one operation can do -/

/-- The operations that read, write or move a buffer, with their arguments. -/
inductive Op
  | getU8
  | getI16
  | getI32
  | getU32
  | getF32
  | getF64
  | getBytes (n : Nat)
  | getCString
  | putU8 (v : UInt8)
  | putI32 (v : Int)
  | putF32 (bits : UInt32)
  | putBytes (bytes : List UInt8)
  | putCString (s : String)
  | seekGet (pos : Int)
  | clearErrors

/-- An outcome with its value dropped. -/
def outcome {α : Type} (r : Except Panic α × ByteBuffer) : Except Panic Unit × ByteBuffer :=
  (r.1.map fun _ => (), r.2)

/-- One operation: whether it stopped, and the buffer after it. -/
def step (b : ByteBuffer) : Op → Except Panic Unit × ByteBuffer
  | .getU8 => outcome b.getU8
  | .getI16 => outcome b.getI16
  | .getI32 => outcome b.getI32
  | .getU32 => outcome b.getU32
  | .getF32 => outcome b.getF32Bits
  | .getF64 => outcome b.getF64
  | .getBytes n => outcome (b.getBytes n)
  | .getCString => outcome b.getCString
  | .putU8 v => outcome (b.putU8 v)
  | .putI32 v => outcome (b.putI32 v)
  | .putF32 bits => outcome (b.putF32Bits bits)
  | .putBytes bytes => outcome (b.putBytes bytes)
  | .putCString s => outcome (b.putCString s)
  | .seekGet pos => (.ok (), (b.seekGet pos).2)
  | .clearErrors => (.ok (), b.clearErrors)

/-- Operations one after another, up to the first that stops. -/
def run (b : ByteBuffer) : List Op → Except Panic Unit × ByteBuffer
  | [] => (.ok (), b)
  | op :: ops =>
    match b.step op with
    | (.ok (), b') => b'.run ops
    | (.error p, b') => (.error p, b')

/-- What one operation may do to a buffer in shape: set the error bits, move `get` within
`[0, put]`, or splice bytes in at `put` of a writable buffer and move `put` past them. -/
inductive Moves (b : ByteBuffer) : ByteBuffer → Prop
  | error (e : UInt8) : Moves b { b with error := e }
  | seek (g : Int) : 0 ≤ g → g ≤ b.put → Moves b { b with get := g }
  | write (bytes : List UInt8) : b.isReadOnly = false →
      b.put.toNat + bytes.length ≤ b.memory.length →
      Moves b
        { b with
          memory := b.memory.take b.put.toNat ++ bytes ++ b.memory.drop (b.put.toNat + bytes.length)
          put := b.put + bytes.length
          maxPut := b.put + bytes.length }

theorem Inv.moves_self (h : b.Inv) : Moves b b :=
  .seek b.get h.get_nonneg h.get_le_put

theorem Inv.take_moves (h : b.Inv) (n : Nat) :
  (∃ v, (b.take n).1 = .ok v) ∧ Moves b (b.take n).2
  := by
  rw [h.take_eq]
  split
  · exact ⟨⟨none, rfl⟩, .error _⟩
  · rename_i hok
    have hn := (not_or.1 hok).2
    have hrem := h.remaining_eq
    obtain ⟨hget, hgp, -, -⟩ := h.bounds
    exact ⟨⟨_, rfl⟩, .seek _ (by omega) (by omega)⟩

theorem Inv.readWith_moves {α : Type} (h : b.Inv) (n : Nat) (f : List UInt8 → α) :
  (∃ v, (b.readWith n f).1 = .ok v) ∧ Moves b (b.readWith n f).2
  := by
  obtain ⟨⟨v, hv⟩, hm⟩ := h.take_moves n
  rw [readWith_eq, hv]
  exact ⟨⟨_, rfl⟩, hm⟩

theorem Inv.getCString_moves (h : b.Inv) :
  (∃ v, b.getCString.1 = .ok v) ∧ Moves b b.getCString.2
  := by
  rw [h.getCString_eq]
  split
  · exact ⟨⟨none, rfl⟩, .error _⟩
  · split
    · exact ⟨⟨none, rfl⟩, .error _⟩
    · rename_i nul hidx
      obtain ⟨hnul, -, -⟩ := List.idxOf?_eq_some_iff.1 hidx
      have hlen := h.length_unread
      have hrem := h.remaining_eq
      obtain ⟨hget, hgp, -, -⟩ := h.bounds
      exact ⟨⟨_, rfl⟩, .seek _ (by omega) (by omega)⟩

theorem Inv.putBytes_moves (h : b.Inv) (bytes : List UInt8) :
  (∃ v, (b.putBytes bytes).1 = .ok v) ∧ Moves b (b.putBytes bytes).2
  := by
  rw [h.putBytes_eq]
  split
  · exact ⟨⟨false, rfl⟩, .error _⟩
  · rename_i hfit
    have hro : b.isReadOnly = false := by simpa using (not_or.1 hfit).1
    exact ⟨⟨true, rfl⟩, .write bytes hro (by omega)⟩

theorem Inv.seekGet_moves (h : b.Inv) (pos : Int) : Moves b (b.seekGet pos).2 := by
  unfold seekGet
  split
  · exact h.moves_self
  · exact .seek pos (by omega) (by omega)

theorem outcome_moves {α : Type} {r : Except Panic α × ByteBuffer}
    (h : (∃ v, r.1 = .ok v) ∧ Moves b r.2) : (outcome r).1 = .ok () ∧ Moves b (outcome r).2
  := by
  obtain ⟨⟨v, hv⟩, hm⟩ := h
  exact ⟨by rw [outcome, hv]; rfl, hm⟩

/-- In shape, no operation stops, and each one moves the buffer. -/
theorem Inv.step_moves (h : b.Inv) (op : Op) : (b.step op).1 = .ok () ∧ Moves b (b.step op).2 := by
  cases op with
  | getU8 => exact outcome_moves (h.readWith_moves _ _)
  | getI16 => exact outcome_moves (h.readWith_moves _ _)
  | getI32 => exact outcome_moves (h.readWith_moves _ _)
  | getU32 => exact outcome_moves (h.readWith_moves _ _)
  | getF32 => exact outcome_moves (h.readWith_moves _ _)
  | getF64 => exact outcome_moves (h.readWith_moves _ _)
  | getBytes n => exact outcome_moves (h.take_moves n)
  | getCString => exact outcome_moves h.getCString_moves
  | putU8 v => exact outcome_moves (h.putBytes_moves _)
  | putI32 v => exact outcome_moves (h.putBytes_moves _)
  | putF32 bits => exact outcome_moves (h.putBytes_moves _)
  | putBytes bytes => exact outcome_moves (h.putBytes_moves bytes)
  | putCString s => exact outcome_moves (h.putBytes_moves _)
  | seekGet pos => exact ⟨rfl, h.seekGet_moves pos⟩
  | clearErrors => exact ⟨rfl, .error 0⟩

/-! ### What a move keeps -/

variable {b' : ByteBuffer}

/-- A move keeps the block's length: a write only overwrites. -/
theorem Moves.length_memory (m : Moves b b') : b'.memory.length = b.memory.length := by
  cases m with
  | error e => rfl
  | seek g _ _ => rfl
  | write bytes _ hfit =>
    simp only [List.length_append, List.length_take, List.length_drop]
    omega

theorem Moves.inv (h : b.Inv) (m : Moves b b') : b'.Inv := by
  have hlen := m.length_memory
  cases m with
  | error e => exact ⟨h.length_lt, h.get_nonneg, h.get_le_put, h.put_le_length, h.maxPut_eq⟩
  | seek g h0 hg => exact ⟨h.length_lt, h0, hg, h.put_le_length, h.maxPut_eq⟩
  | write bytes _ hfit =>
    obtain ⟨hget, hgp, -, -⟩ := h.bounds
    refine ⟨?_, h.get_nonneg, ?_, ?_, rfl⟩
    · simpa only [hlen] using h.length_lt
    · dsimp only
      omega
    · dsimp only
      rw [hlen]
      omega

/-- A move changes no byte before the old `put` or from the new `put` on. -/
theorem Moves.memory_outside (h : b.Inv) (m : Moves b b') {i : Nat}
    (hi : i < b.put.toNat ∨ b'.put.toNat ≤ i) : b'.memory[i]? = b.memory[i]?
  := by
  cases m with
  | error e => rfl
  | seek g _ _ => rfl
  | write bytes _ hfit =>
    obtain ⟨hget, hgp, -, -⟩ := h.bounds
    have hpre : (b.memory.take b.put.toNat ++ bytes).length = b.put.toNat + bytes.length := by
      simp only [List.length_append, List.length_take]
      omega
    dsimp only at hi ⊢
    rcases hi with hi | hi
    · rw [List.append_assoc, List.getElem?_append_left (by simp; omega),
        List.getElem?_take_of_lt hi]
    · rw [List.getElem?_append_right (by omega), List.getElem?_drop, hpre]
      congr 1
      omega

/-- A move keeps a read-only buffer read-only and its memory as it was. -/
theorem Moves.of_readOnly (m : Moves b b') (hro : b.isReadOnly = true) :
  b'.isReadOnly = true ∧ b'.memory = b.memory
  := by
  cases m with
  | error e => exact ⟨hro, rfl⟩
  | seek g _ _ => exact ⟨hro, rfl⟩
  | write bytes hw _ => simp [hw] at hro

/-! ### Runs -/

/-- From a buffer in shape, a run never stops, and reaches its buffer by moves. -/
theorem Inv.run_reaches (h : b.Inv) (ops : List Op) :
  (b.run ops).1 = .ok () ∧ Relation.ReflTransGen Moves b (b.run ops).2
  := by
  induction ops generalizing b with
  | nil => exact ⟨rfl, .refl⟩
  | cons op ops ih =>
    obtain ⟨hok, hm⟩ := h.step_moves op
    obtain ⟨hrun, hreach⟩ := ih (hm.inv h)
    rcases hstep : b.step op with ⟨_ | ⟨⟩, b₁⟩
    · rw [hstep] at hok
      cases hok
    · rw [hstep] at hm hrun hreach
      simp only [run, hstep]
      exact ⟨hrun, .head hm hreach⟩

theorem Inv.of_reaches (h : b.Inv) (hr : Relation.ReflTransGen Moves b b') : b'.Inv := by
  induction hr with
  | refl => exact h
  | tail _ hm ih => exact hm.inv ih

theorem memory_of_reaches_readOnly (hro : b.isReadOnly = true)
    (hr : Relation.ReflTransGen Moves b b') : b'.memory = b.memory
  := by
  suffices b'.isReadOnly = true ∧ b'.memory = b.memory from this.2
  induction hr with
  | refl => exact ⟨hro, rfl⟩
  | tail _ hm ih =>
    obtain ⟨hro', hmem⟩ := hm.of_readOnly ih.1
    exact ⟨hro', hmem.trans ih.2⟩

theorem length_of_reaches (hr : Relation.ReflTransGen Moves b b') :
  b'.memory.length = b.memory.length
  := by
  induction hr with
  | refl => rfl
  | tail _ hm ih => exact hm.length_memory.trans ih

/-! ### Buffers over external memory -/

theorem inv_external (memory : List UInt8) (put : Nat) (flags : UInt8)
    (hlen : memory.length < 2147483648) : (external memory put flags).Inv
  := by
  have hput : wrapI32 (min (put : Int) memory.length) = min (put : Int) memory.length :=
    wrapI32_of_lt (by omega) (by omega)
  refine ⟨hlen, Int.le_refl 0, ?_, ?_, rfl⟩
  · show 0 ≤ wrapI32 (min (put : Int) memory.length)
    omega
  · show wrapI32 (min (put : Int) memory.length) ≤ memory.length
    omega

theorem isReadOnly_external {memory : List UInt8} {put : Nat} {flags : UInt8}
    (hro : flags &&& BufferFlags.readOnly ≠ 0) : (external memory put flags).isReadOnly = true
  := by
  simp [isReadOnly, external, hro]

/-- A buffer made over at most `2 ^ 31 - 1` bytes, whatever operations run on it: the run never
stops; the buffer it reaches keeps the block's size and `0 ≤ get ≤ put ≤ size` with
`maxPut = put`, and the window a string read scans lies in the block; the next operation does
not stop either and changes no byte before the old `put` or from the new one on; and memory
made read-only never changes. -/
theorem external_run_in_shape (memory : List UInt8) (put : Nat) (flags : UInt8)
    (hlen : memory.length < 2147483648) (ops : List Op) :
  let r := (external memory put flags).run ops
  r.1 = .ok () ∧
  (r.2.size = memory.length ∧ 0 ≤ r.2.get ∧ r.2.get ≤ r.2.put ∧ r.2.put ≤ r.2.size ∧
    r.2.maxPut = r.2.put) ∧
  r.2.range? r.2.get.toNat r.2.put.toNat = some r.2.unread ∧
  (∀ op, (r.2.step op).1 = .ok () ∧
    ∀ i, i < r.2.put.toNat ∨ (r.2.step op).2.put.toNat ≤ i →
      (r.2.step op).2.memory[i]? = r.2.memory[i]?) ∧
  (flags &&& BufferFlags.readOnly ≠ 0 → r.2.memory = memory)
  := by
  intro r
  have h₀ := inv_external memory put flags hlen
  obtain ⟨hok, hreach⟩ := h₀.run_reaches ops
  have h : r.2.Inv := h₀.of_reaches hreach
  have hsize : r.2.size = memory.length := by
    rw [size_of_lt h.length_lt]
    exact length_of_reaches hreach
  refine ⟨hok, ⟨hsize, h.get_nonneg, h.get_le_put, ?_, h.maxPut_eq⟩, h.range?_unread,
    fun op => ?_, fun hro => ?_⟩
  · rw [size_of_lt h.length_lt]
    exact h.put_le_length
  · obtain ⟨hstep, hm⟩ := h.step_moves op
    exact ⟨hstep, fun i hi => hm.memory_outside h hi⟩
  · exact memory_of_reaches_readOnly (isReadOnly_external hro) hreach

theorem readOnly_run_in_shape :
  [1, 2, 0, 0].length < 2147483648 ∧
  let r := (external [1, 2, 0, 0] 2 BufferFlags.readOnly).run
    [.getU8, .putU8 7, .getCString, .seekGet 0, .getI16, .clearErrors]
  r.1 = .ok () ∧
  (r.2.size = [1, 2, 0, 0].length ∧ 0 ≤ r.2.get ∧ r.2.get ≤ r.2.put ∧ r.2.put ≤ r.2.size ∧
    r.2.maxPut = r.2.put) ∧
  r.2.range? r.2.get.toNat r.2.put.toNat = some r.2.unread ∧
  (∀ op, (r.2.step op).1 = .ok () ∧
    ∀ i, i < r.2.put.toNat ∨ (r.2.step op).2.put.toNat ≤ i →
      (r.2.step op).2.memory[i]? = r.2.memory[i]?) ∧
  (BufferFlags.readOnly &&& BufferFlags.readOnly ≠ 0 → r.2.memory = [1, 2, 0, 0])
  :=
  ⟨by decide, external_run_in_shape [1, 2, 0, 0] 2 BufferFlags.readOnly (by decide) _⟩

end ByteBuffer

end EngineSdk
