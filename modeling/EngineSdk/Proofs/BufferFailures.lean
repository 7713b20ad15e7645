import EngineSdk.Proofs.ByteBuffer

/-!
# When buffer operations fail

Every operation on a buffer in shape is either served or fails, and never stops the call
(`ByteBuffer.attempt` says which).  `ByteBuffer.failsOn` says when each one fails, in terms of
the buffer alone:

* a read of `n` bytes, when the buffer has an error or fewer than `n` bytes lie between `get`
  and `put`; a string read, when the buffer has an error or no NUL lies there;
* a write of `n` bytes, when the buffer is read-only or the bytes would pass its size;
* a seek, when the position lies before the start or past `put`; clearing never fails.

A failed read sets `getOverflow` and a failed write `putOverflow`, and nothing else changes; a
failed seek changes nothing (`ByteBuffer.afterFailure`).  `Inv.attempt_failsExactly` proves all
this for every buffer in shape.  Error bits are only ever added, except by `clearErrors`
(`Inv.run_adds_errors`), so once one is set every read fails until the errors are cleared;
writes do not look at them.  `reachable_failures_exact` states it all for the buffers a program
can hold.
-/

namespace EngineSdk

theorem UInt8.or_ne_zero {x : UInt8} (y : UInt8) (hx : x ≠ 0) : x ||| y ≠ 0 := by
  intro h
  have hnat : x.toNat ||| y.toNat = 0 := by rw [← UInt8.toNat_or, h]; rfl
  exact hx (UInt8.toNat_inj.1 (Nat.or_eq_zero_iff.1 hnat).1)

namespace ByteBuffer

/-- The outcome of a read as served or failed: whether it gave a value. -/
def served {α : Type} (r : Except Panic (Option α) × ByteBuffer) : Except Panic Bool × ByteBuffer :=
  (r.1.map Option.isSome, r.2)

/-- Whether an operation was served, with the buffer afterwards: a read gave a value, a write
or a seek was accepted; clearing the errors always is. -/
def attempt (b : ByteBuffer) : Op → Except Panic Bool × ByteBuffer
  | .getU8 => served b.getU8
  | .getI16 => served b.getI16
  | .getI32 => served b.getI32
  | .getU32 => served b.getU32
  | .getF32 => served b.getF32Bits
  | .getF64 => served b.getF64
  | .getBytes n => served (b.getBytes n)
  | .getCString => served b.getCString
  | .putU8 v => b.putU8 v
  | .putI32 v => b.putI32 v
  | .putF32 bits => b.putF32Bits bits
  | .putBytes bytes => b.putBytes bytes
  | .putCString s => b.putCString s
  | .seekGet pos => (.ok (b.seekGet pos).1, (b.seekGet pos).2)
  | .clearErrors => (.ok true, b.clearErrors)

/-- A read of `n` bytes cannot be served: the buffer has an error, or fewer than `n` bytes lie
between `get` and `put`. -/
def ReadFails (b : ByteBuffer) (n : Nat) : Prop := b.error ≠ 0 ∨ b.put - b.get < n

instance (b : ByteBuffer) (n : Nat) : Decidable (b.ReadFails n) :=
  inferInstanceAs (Decidable (_ ∨ _))

/-- A write of `n` bytes cannot be served: the buffer is read-only, or the bytes would pass its
size. -/
def WriteFails (b : ByteBuffer) (n : Nat) : Prop := b.isReadOnly = true ∨ b.put + n > b.size

instance (b : ByteBuffer) (n : Nat) : Decidable (b.WriteFails n) :=
  inferInstanceAs (Decidable (_ ∨ _))

/-- When each operation fails. -/
def failsOn (b : ByteBuffer) : Op → Prop
  | .getU8 => b.ReadFails 1
  | .getI16 => b.ReadFails 2
  | .getI32 | .getU32 | .getF32 => b.ReadFails 4
  | .getF64 => b.ReadFails 8
  | .getBytes n => b.ReadFails n
  | .getCString => b.error ≠ 0 ∨ 0 ∉ b.unread
  | .putU8 _ => b.WriteFails 1
  | .putI32 _ | .putF32 _ => b.WriteFails 4
  | .putBytes bytes => b.WriteFails bytes.length
  | .putCString s => b.WriteFails (s.toUTF8.toList.length + 1)
  | .seekGet pos => pos < 0 ∨ pos > b.put
  | .clearErrors => False

/-- The buffer after a failed operation: a read sets `getOverflow`, a write `putOverflow`, and
nothing else changes. -/
def afterFailure (b : ByteBuffer) : Op → ByteBuffer
  | .getU8 | .getI16 | .getI32 | .getU32 | .getF32 | .getF64 | .getBytes _ | .getCString =>
    { b with error := b.error ||| BufferErrors.getOverflow }
  | .putU8 _ | .putI32 _ | .putF32 _ | .putBytes _ | .putCString _ =>
    { b with error := b.error ||| BufferErrors.putOverflow }
  | .seekGet _ | .clearErrors => b

/-- The operations that read. -/
def Op.isRead : Op → Bool
  | .getU8 | .getI16 | .getI32 | .getU32 | .getF32 | .getF64 | .getBytes _ | .getCString => true
  | _ => false

/-- An outcome fails exactly when `cond` holds, and then leaves `failed`; otherwise it is
served.  Either way the call goes on. -/
structure FailsExactly (r : Except Panic Bool × ByteBuffer) (cond : Prop) (failed : ByteBuffer) :
    Prop where
  fails_iff : r.1 = .ok false ↔ cond
  served_iff : r.1 = .ok true ↔ ¬ cond
  failed_buffer : cond → r.2 = failed

/-- An outcome given by a condition: failed with `failed`, or served with some buffer. -/
theorem FailsExactly.of_eq {r : Except Panic Bool × ByteBuffer} {cond : Prop} [Decidable cond]
    {failed : ByteBuffer} (done : ByteBuffer)
    (h : r = if cond then (.ok false, failed) else (.ok true, done)) :
  FailsExactly r cond failed
  := by
  subst h
  by_cases hc : cond
  · exact ⟨by simp [hc], by simp [hc], fun _ => by simp [hc]⟩
  · exact ⟨by simp [hc], by simp [hc], fun h => absurd h hc⟩

variable {b : ByteBuffer}

/-! ### Each kind of operation -/

theorem served_readWith {α : Type} (n : Nat) (f : List UInt8 → α) :
  served (b.readWith n f) = served (b.take n)
  := by
  rw [readWith_eq]
  generalize b.take n = r
  obtain ⟨_ | v, b'⟩ := r
  · rfl
  · cases v <;> rfl

theorem Inv.take_failsExactly (h : b.Inv) (n : Nat) :
  FailsExactly (served (b.take n)) (b.ReadFails n)
    { b with error := b.error ||| BufferErrors.getOverflow }
  := by
  have hrem := h.remaining_eq
  have hcond : (b.error ≠ 0 ∨ b.remaining < n) ↔ b.ReadFails n := by
    have hless : b.remaining < n ↔ b.put - b.get < n := by omega
    rw [hless]
    rfl
  apply FailsExactly.of_eq { b with get := b.get + n }
  rw [h.take_eq]
  by_cases hc : b.ReadFails n
  · rw [if_pos (hcond.2 hc), if_pos hc]
    rfl
  · rw [if_neg (mt hcond.1 hc), if_neg hc]
    rfl

theorem Inv.readWith_failsExactly {α : Type} (h : b.Inv) (n : Nat) (f : List UInt8 → α) :
  FailsExactly (served (b.readWith n f)) (b.ReadFails n)
    { b with error := b.error ||| BufferErrors.getOverflow }
  := by
  rw [served_readWith]
  exact h.take_failsExactly n

theorem Inv.getCString_failsExactly (h : b.Inv) :
  FailsExactly (served b.getCString) (b.error ≠ 0 ∨ 0 ∉ b.unread)
    { b with error := b.error ||| BufferErrors.getOverflow }
  := by
  rw [h.getCString_eq]
  by_cases he : b.error ≠ 0
  · rw [if_pos he]
    exact FailsExactly.of_eq b (by rw [if_pos (.inl he)]; rfl)
  · rw [if_neg he]
    rcases hidx : b.unread.idxOf? 0 with _ | nul
    · have hnone : 0 ∉ b.unread := by simpa using hidx
      exact FailsExactly.of_eq b (by rw [if_pos (.inr hnone)]; rfl)
    · have hmem : 0 ∈ b.unread := by
        obtain ⟨hnul, hget, -⟩ := List.idxOf?_eq_some_iff.1 hidx
        exact hget ▸ List.getElem_mem hnul
      exact FailsExactly.of_eq { b with get := b.get + nul + 1 }
        (by rw [if_neg (by simp [he, hmem])]; rfl)

theorem Inv.putBytes_failsExactly (h : b.Inv) (bytes : List UInt8) :
  FailsExactly (b.putBytes bytes) (b.WriteFails bytes.length)
    { b with error := b.error ||| BufferErrors.putOverflow }
  := by
  obtain ⟨hget, hgp, -, hlen⟩ := h.bounds
  have hcond : (b.isReadOnly = true ∨ b.put.toNat + bytes.length > b.memory.length) ↔
      b.WriteFails bytes.length := by
    have hpast : b.put.toNat + bytes.length > b.memory.length ↔
        b.put + bytes.length > (b.size : Int) := by
      rw [size_of_lt hlen]
      omega
    rw [hpast]
    rfl
  rw [h.putBytes_eq]
  by_cases hc : b.WriteFails bytes.length
  · exact FailsExactly.of_eq b (by rw [if_pos (hcond.2 hc), if_pos hc])
  · exact FailsExactly.of_eq _ (by rw [if_neg (mt hcond.1 hc), if_neg hc])

theorem seekGet_failsExactly (pos : Int) :
  FailsExactly (.ok (b.seekGet pos).1, (b.seekGet pos).2) (pos < 0 ∨ pos > b.put) b
  := by
  apply FailsExactly.of_eq { b with get := pos }
  unfold seekGet
  by_cases hc : pos < 0 ∨ pos > b.put
  · rw [if_pos hc, if_pos hc]
  · rw [if_neg hc, if_neg hc]

/-! ### Every operation -/

/-- In shape, every operation fails exactly when `failsOn` says, and then changes only what
`afterFailure` says; what it leaves is what the step leaves. -/
theorem Inv.attempt_failsExactly (h : b.Inv) (op : Op) :
  FailsExactly (b.attempt op) (b.failsOn op) (b.afterFailure op) ∧
    (b.attempt op).2 = (b.step op).2
  := by
  cases op with
  | getU8 => exact ⟨h.readWith_failsExactly _ _, rfl⟩
  | getI16 => exact ⟨h.readWith_failsExactly _ _, rfl⟩
  | getI32 => exact ⟨h.readWith_failsExactly _ _, rfl⟩
  | getU32 => exact ⟨h.readWith_failsExactly _ _, rfl⟩
  | getF32 => exact ⟨h.readWith_failsExactly _ _, rfl⟩
  | getF64 => exact ⟨h.readWith_failsExactly _ _, rfl⟩
  | getBytes n => exact ⟨h.take_failsExactly n, rfl⟩
  | getCString => exact ⟨h.getCString_failsExactly, rfl⟩
  | putU8 v => exact ⟨h.putBytes_failsExactly [v], rfl⟩
  | putI32 v =>
    have hfails := h.putBytes_failsExactly (LittleEndian.ofInt 4 v)
    rw [show (LittleEndian.ofInt 4 v).length = 4 from LittleEndian.length_ofNat _ _] at hfails
    exact ⟨hfails, rfl⟩
  | putF32 bits =>
    have hfails := h.putBytes_failsExactly (LittleEndian.ofNat 4 bits.toNat)
    rw [LittleEndian.length_ofNat] at hfails
    exact ⟨hfails, rfl⟩
  | putBytes bytes => exact ⟨h.putBytes_failsExactly bytes, rfl⟩
  | putCString s =>
    have hfails := h.putBytes_failsExactly (s.toUTF8.toList ++ [0])
    rw [List.length_append, List.length_singleton] at hfails
    exact ⟨hfails, rfl⟩
  | seekGet pos => exact ⟨seekGet_failsExactly pos, rfl⟩
  | clearErrors => exact ⟨⟨by simp [attempt, failsOn], by simp [attempt, failsOn], nofun⟩, rfl⟩

/-! ### Errors stay until cleared -/

theorem Inv.take_adds_errors (h : b.Inv) (n : Nat) :
  ∃ bits, (b.take n).2.error = b.error ||| bits
  := by
  rw [h.take_eq]
  split
  · exact ⟨_, rfl⟩
  · exact ⟨0, UInt8.or_zero.symm⟩

theorem Inv.getCString_adds_errors (h : b.Inv) :
  ∃ bits, b.getCString.2.error = b.error ||| bits
  := by
  rw [h.getCString_eq]
  split
  · exact ⟨_, rfl⟩
  · split
    · exact ⟨_, rfl⟩
    · exact ⟨0, UInt8.or_zero.symm⟩

theorem Inv.putBytes_adds_errors (h : b.Inv) (bytes : List UInt8) :
  ∃ bits, (b.putBytes bytes).2.error = b.error ||| bits
  := by
  rw [h.putBytes_eq]
  split
  · exact ⟨_, rfl⟩
  · exact ⟨0, UInt8.or_zero.symm⟩

theorem seekGet_error (pos : Int) : (b.seekGet pos).2.error = b.error := by
  unfold seekGet
  split <;> rfl

/-- Every operation but `clearErrors` keeps the error bits, adding some or none. -/
theorem Inv.step_adds_errors (h : b.Inv) {op : Op} (hop : op ≠ .clearErrors) :
  ∃ bits, (b.step op).2.error = b.error ||| bits
  := by
  cases op with
  | getU8 => exact h.take_adds_errors _
  | getI16 => exact h.take_adds_errors _
  | getI32 => exact h.take_adds_errors _
  | getU32 => exact h.take_adds_errors _
  | getF32 => exact h.take_adds_errors _
  | getF64 => exact h.take_adds_errors _
  | getBytes n => exact h.take_adds_errors n
  | getCString => exact h.getCString_adds_errors
  | putU8 v => exact h.putBytes_adds_errors _
  | putI32 v => exact h.putBytes_adds_errors _
  | putF32 bits => exact h.putBytes_adds_errors _
  | putBytes bytes => exact h.putBytes_adds_errors bytes
  | putCString s => exact h.putBytes_adds_errors _
  | seekGet pos => exact ⟨0, by rw [UInt8.or_zero]; exact seekGet_error pos⟩
  | clearErrors => exact absurd rfl hop

/-- A run without `clearErrors` keeps the error bits, adding some or none. -/
theorem Inv.run_adds_errors (h : b.Inv) (ops : List Op) (hops : ∀ op ∈ ops, op ≠ .clearErrors) :
  ∃ bits, (b.run ops).2.error = b.error ||| bits
  := by
  induction ops generalizing b with
  | nil => exact ⟨0, UInt8.or_zero.symm⟩
  | cons op ops ih =>
    obtain ⟨hok, hmoves⟩ := h.step_moves op
    obtain ⟨bits, hbits⟩ := h.step_adds_errors (hops op List.mem_cons_self)
    obtain ⟨more, hmore⟩ := ih (hmoves.inv h) fun op' hop' => hops op' (List.mem_cons_of_mem _ hop')
    have hrun : b.run (op :: ops) = (b.step op).2.run ops := by
      rcases hstep : b.step op with ⟨_ | ⟨⟩, b₁⟩
      · rw [hstep] at hok
        cases hok
      · simp only [run, hstep]
    refine ⟨bits ||| more, ?_⟩
    rw [hrun, hmore, hbits, UInt8.or_assoc]

theorem failsOn_of_error (he : b.error ≠ 0) {op : Op} (hread : op.isRead = true) :
  b.failsOn op
  := by
  cases op <;> first
    | exact .inl he
    | simp [Op.isRead] at hread

/-! ### The buffers a program holds -/

/-- In every buffer a program can hold, made over at most `2 ^ 31 - 1` bytes and changed by any
operations: each operation fails exactly when `failsOn` says, a failure changes only what
`afterFailure` says, and the call goes on either way; once an error bit is set, every read
fails after any further operations but `clearErrors`; and `clearErrors` sets the error bits to
zero and changes nothing else. -/
theorem reachable_failures_exact (memory : List UInt8) (put : Nat) (flags : UInt8)
    (hlen : memory.length < 2147483648) (ops : List Op) :
  let b := ((external memory put flags).run ops).2
  (∀ op, FailsExactly (b.attempt op) (b.failsOn op) (b.afterFailure op) ∧
    (b.attempt op).2 = (b.step op).2) ∧
  (b.error ≠ 0 → ∀ more, (∀ op ∈ more, op ≠ .clearErrors) →
    ∀ op, op.isRead = true → ((b.run more).2.attempt op).1 = .ok false) ∧
  (b.step .clearErrors).2 = { b with error := 0 }
  := by
  intro b
  have h₀ := inv_external memory put flags hlen
  have h : b.Inv := h₀.of_reaches (h₀.run_reaches ops).2
  refine ⟨h.attempt_failsExactly, fun he more hmore op hread => ?_, rfl⟩
  have h' : (b.run more).2.Inv := h.of_reaches (h.run_reaches more).2
  obtain ⟨bits, hbits⟩ := h.run_adds_errors more hmore
  have he' : (b.run more).2.error ≠ 0 := hbits ▸ UInt8.or_ne_zero bits he
  exact (h'.attempt_failsExactly op).1.fails_iff.2 (failsOn_of_error he' hread)

theorem readOnly_failures_exact :
  [1, 0, 2].length < 2147483648 ∧
  let b := ((external [1, 0, 2] 2 BufferFlags.readOnly).run [.getI16, .putU8 7]).2
  (∀ op, FailsExactly (b.attempt op) (b.failsOn op) (b.afterFailure op) ∧
    (b.attempt op).2 = (b.step op).2) ∧
  (b.error ≠ 0 → ∀ more, (∀ op ∈ more, op ≠ .clearErrors) →
    ∀ op, op.isRead = true → ((b.run more).2.attempt op).1 = .ok false) ∧
  (b.step .clearErrors).2 = { b with error := 0 }
  :=
  ⟨by decide, reachable_failures_exact [1, 0, 2] 2 BufferFlags.readOnly (by decide) _⟩

end ByteBuffer

end EngineSdk
