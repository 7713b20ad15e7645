import EngineSdk.Proofs.ByteBuffer
import EngineSdk.Proofs.Utf8

/-!
# Reading back what was written

A buffer reads back, in order, the values written to it: a byte, a 32-bit integer, the bits of a
binary32 value, raw bytes, or a string with no NUL in it (`Item`).  Each is written as its
encoding (`Item.encoding`): the byte itself, the four little-endian bytes of the 32-bit word
(`le32`), the raw bytes, or the UTF-8 bytes of the string and a NUL.

Everything is said through two views of a buffer in shape: the bytes written so far, `data`,
and the unread ones, `unread`, which are `data` from `get` on.  A write that succeeds appends
its bytes to `data` (`Inv.putBytes_ok`); a read of an item whose encoding begins the unread bytes
gives the item back and takes the encoding off them (`Inv.readItem_of_unread`).  Over a list of
items (`each`) this gives the round trip `Inv.written_items_read_back`.
-/

namespace EngineSdk

/-- The four little-endian bytes of a 32-bit word. -/
def le32 (u : UInt32) : List UInt8 :=
  [u.toUInt8, (u >>> 8).toUInt8, (u >>> 16).toUInt8, (u >>> 24).toUInt8]

namespace LittleEndian

theorem ofNat_four (u : UInt32) : ofNat 4 u.toNat = le32 u := by
  have hu := u.toNat_lt
  simp only [le32, ofNat, List.cons.injEq, ← UInt8.toNat_inj, and_true]
  simp [UInt32.toNat_toUInt8, UInt32.toNat_shiftRight, Nat.shiftRight_eq_div_pow]
  omega

/-- The two's complement bytes of a 32-bit integer are those of its bits. -/
theorem ofInt_four (v : Int32) : ofInt 4 v.toInt = le32 v.toUInt32 := by
  have hn := v.toBitVec.isLt
  have hint := BitVec.toInt_eq_toNat_cond v.toBitVec
  rw [Int32.toInt_toBitVec] at hint
  rw [← ofNat_four, ← Int32.toNat_toBitVec, ofInt]
  congr 1
  split at hint <;> simp <;> omega

theorem toNat_le32 (u : UInt32) : toNat (le32 u) = u.toNat := by
  rw [← ofNat_four, toNat_ofNat]
  exact Nat.mod_eq_of_lt u.toNat_lt

/-- The bits of a 32-bit integer read as two's complement are the integer. -/
theorem toSigned_toUInt32 (v : Int32) : toSigned 32 v.toUInt32.toNat = v.toInt := by
  have hn := v.toBitVec.isLt
  have hint := BitVec.toInt_eq_toNat_cond v.toBitVec
  rw [Int32.toInt_toBitVec] at hint
  rw [← Int32.toNat_toBitVec, toSigned, hint]
  simp
  split_ifs <;> omega

end LittleEndian

namespace ByteBuffer

/-! ### Items -/

/-- A value written by one of the typed writes. -/
inductive Item
  | u8 (v : UInt8)
  | i32 (v : Int32)
  | f32 (bits : UInt32)
  | bytes (bs : List UInt8)
  | cstring (s : String)
deriving Repr, DecidableEq

/-- A value as a getter gives it. -/
inductive Value
  | nat (n : Nat)
  | int (i : Int)
  | bits (u : UInt32)
  | bytes (bs : List UInt8)
  | str (s : String)
deriving Repr, DecidableEq

namespace Item

/-- What the getter of the item's kind gives back for it. -/
def value : Item → Value
  | u8 v => .nat v.toNat
  | i32 v => .int v.toInt
  | f32 bits => .bits bits
  | bytes bs => .bytes bs
  | cstring s => .str s

/-- The bytes an item is stored as. -/
def encoding : Item → List UInt8
  | u8 v => [v]
  | i32 v => le32 v.toUInt32
  | f32 bits => le32 bits
  | bytes bs => bs
  | cstring s => s.toUTF8.toList ++ [0]

/-- No NUL inside a string item, the one thing that would end it early. -/
def NulFree : Item → Prop
  | cstring s => 0 ∉ s.toUTF8.toList
  | _ => True

instance : DecidablePred NulFree
  | cstring s => inferInstanceAs (Decidable (0 ∉ s.toUTF8.toList))
  | u8 _ | i32 _ | f32 _ | bytes _ => isTrue trivial

end Item

/-- Writes an item with the write of its kind. -/
def writeItem (b : ByteBuffer) : Item → Except Panic Bool × ByteBuffer
  | .u8 v => b.putU8 v
  | .i32 v => b.putI32 v.toInt
  | .f32 bits => b.putF32Bits bits
  | .bytes bs => b.putBytes bs
  | .cstring s => b.putCString s

/-- A getter's outcome with its value named as a `Value`. -/
def valueOf {α : Type} (f : α → Value) (r : Except Panic (Option α) × ByteBuffer) :
    Except Panic (Option Value) × ByteBuffer :=
  (r.1.map (Option.map f), r.2)

@[simp] theorem valueOf_ok {α : Type} (f : α → Value) (a : Option α) (b : ByteBuffer) :
  valueOf f (.ok a, b) = (.ok (a.map f), b)
  := rfl

/-- Reads an item back with the getter of its kind; raw bytes are read by their count. -/
def readItem (b : ByteBuffer) : Item → Except Panic (Option Value) × ByteBuffer
  | .u8 _ => valueOf .nat b.getU8
  | .i32 _ => valueOf .int b.getI32
  | .f32 _ => valueOf .bits b.getF32Bits
  | .bytes bs => valueOf .bytes (b.getBytes bs.length)
  | .cstring _ => valueOf .str b.getCString

/-- Runs `f` on each element in order, the buffer passed along, up to the first stop. -/
def each {α β : Type} (f : ByteBuffer → α → Except Panic β × ByteBuffer) (b : ByteBuffer) :
    List α → Except Panic (List β) × ByteBuffer
  | [] => (.ok [], b)
  | a :: as =>
    match f b a with
    | (.error p, b') => (.error p, b')
    | (.ok v, b') =>
      match each f b' as with
      | (.error p, b'') => (.error p, b'')
      | (.ok vs, b'') => (.ok (v :: vs), b'')

section Each

variable {α β : Type} {f : ByteBuffer → α → Except Panic β × ByteBuffer} {b b' : ByteBuffer}
  {a : α} {as : List α}

theorem each_cons_of_ok {v : β} (h : f b a = (.ok v, b')) :
  each f b (a :: as) = ((each f b' as).1.map (v :: ·), (each f b' as).2)
  := by
  simp only [each, h]
  rcases each f b' as with ⟨_ | vs, b''⟩ <;> rfl

theorem each_cons_of_error {p : Panic} (h : f b a = (.error p, b')) :
  each f b (a :: as) = (.error p, b')
  := by
  simp only [each, h]

end Each

/-! ### The written and the unread bytes -/

variable {b : ByteBuffer}

theorem Inv.data_eq (h : b.Inv) : b.data = b.memory.take b.put.toNat := by
  rw [data, block_of_lt h.length_lt]

theorem Inv.length_data (h : b.Inv) : b.data.length = b.put.toNat := by
  obtain ⟨hget, hgp, hput, -⟩ := h.bounds
  rw [h.data_eq, List.length_take]
  omega

theorem Inv.unread_eq (h : b.Inv) : b.unread = b.data.drop b.get.toNat := by
  rw [h.data_eq]
  rfl

/-- Moving `get` on by `n` takes `n` bytes off the unread ones. -/
theorem unread_advance (hget : 0 ≤ b.get) (n : Nat) :
  { b with get := b.get + n }.unread = b.unread.drop n
  := by
  simp only [unread, List.drop_drop]
  congr 1
  omega

/-- A write that succeeds appends its bytes to the written ones and moves nothing else. -/
theorem Inv.putBytes_ok (h : b.Inv) {bytes : List UInt8} (hok : (b.putBytes bytes).1 = .ok true) :
  (b.putBytes bytes).2.Inv ∧ (b.putBytes bytes).2.data = b.data ++ bytes ∧
    (b.putBytes bytes).2.get = b.get ∧ (b.putBytes bytes).2.error = b.error
  := by
  have hfit : ¬(b.isReadOnly ∨ b.put.toNat + bytes.length > b.memory.length) := by
    intro hfail
    rw [h.putBytes_eq, if_pos hfail] at hok
    cases hok
  have hb' := (h.putBytes_moves bytes).2.inv h
  have heq := h.putBytes_eq bytes
  rw [if_neg hfit] at heq
  refine ⟨hb', ?_, by rw [heq], by rw [heq]⟩
  obtain ⟨hget, hgp, hput, -⟩ := h.bounds
  rw [hb'.data_eq, h.data_eq, heq]
  dsimp only
  rw [show (b.put + bytes.length).toNat = b.put.toNat + bytes.length by omega, List.append_assoc,
    List.take_append, List.take_of_length_le (by rw [List.length_take]; omega), List.length_take,
    show b.put.toNat + bytes.length - min b.put.toNat b.memory.length = bytes.length by omega,
    List.take_append, List.take_of_length_le (Nat.le_refl _), Nat.sub_self, List.take_zero,
    List.append_nil]

/-! ### Writing items -/

/-- Every typed write stores the item's encoding. -/
theorem writeItem_eq (b : ByteBuffer) (it : Item) : b.writeItem it = b.putBytes it.encoding := by
  cases it with
  | u8 v => rfl
  | i32 v => rw [writeItem, putI32, LittleEndian.ofInt_four, Item.encoding]
  | f32 bits => rw [writeItem, putF32Bits, LittleEndian.ofNat_four, Item.encoding]
  | bytes bs => rfl
  | cstring s => rfl

/-- Writes that all succeed append the items' encodings to the written bytes, and leave `get`
and the error bits alone. -/
theorem Inv.writes (h : b.Inv) {items : List Item}
    (hput : (b.each writeItem items).1 = .ok (items.map fun _ => true)) :
  (b.each writeItem items).2.Inv ∧
    (b.each writeItem items).2.data = b.data ++ items.flatMap Item.encoding ∧
    (b.each writeItem items).2.get = b.get ∧ (b.each writeItem items).2.error = b.error
  := by
  induction items generalizing b with
  | nil => exact ⟨h, by simp [each], rfl, rfl⟩
  | cons it its ih =>
    rcases hw : b.writeItem it with ⟨_ | ok, b₁⟩
    · rw [each_cons_of_error hw] at hput
      cases hput
    · rw [each_cons_of_ok hw] at hput ⊢
      rcases hrest : (b₁.each writeItem its).1 with _ | oks
      · rw [hrest] at hput
        cases hput
      · rw [hrest] at hput
        simp only [Except.map, List.map_cons, Except.ok.injEq, List.cons.injEq] at hput
        obtain ⟨rfl, hoks⟩ := hput
        rw [writeItem_eq] at hw
        obtain ⟨h₁, hdata₁, hget₁, herr₁⟩ := h.putBytes_ok (by rw [hw])
        rw [hw] at h₁ hdata₁ hget₁ herr₁
        obtain ⟨h₂, hdata₂, hget₂, herr₂⟩ := ih h₁ (hrest.trans (congrArg _ hoks))
        refine ⟨h₂, ?_, hget₂.trans hget₁, herr₂.trans herr₁⟩
        rw [hdata₂, hdata₁, List.flatMap_cons, List.append_assoc]

/-! ### Reading items -/

/-- A read of `n` bytes that begin the unread ones gives them and moves `get` past them. -/
theorem Inv.take_of_unread (h : b.Inv) (herr : b.error = 0) {bs rest : List UInt8}
    (hun : b.unread = bs ++ rest) :
  b.take bs.length = (.ok (some bs), { b with get := b.get + bs.length })
  := by
  have hrem : bs.length ≤ b.remaining := by
    rw [← h.length_unread, hun, List.length_append]
    omega
  rw [h.take_eq, if_neg (not_or.2 ⟨by simp [herr], by omega⟩), hun, List.take_left]

theorem Inv.readWith_of_unread {α : Type} (h : b.Inv) (herr : b.error = 0) {bs rest : List UInt8}
    (hun : b.unread = bs ++ rest) (f : List UInt8 → α) :
  b.readWith bs.length f = (.ok (some (f bs)), { b with get := b.get + bs.length })
  := by
  rw [readWith_eq, h.take_of_unread herr hun]
  rfl

theorem idxOf?_append_nul {bs rest : List UInt8} (h : 0 ∉ bs) :
  (bs ++ 0 :: rest).idxOf? 0 = some bs.length
  := by
  induction bs with
  | nil => simp [List.idxOf?_cons]
  | cons x xs ih =>
    have hx : x ≠ 0 := fun hx => h (hx ▸ List.mem_cons_self)
    have hxs : 0 ∉ xs := fun hm => h (List.mem_cons_of_mem _ hm)
    rw [List.cons_append, List.idxOf?_cons, ih hxs]
    simp [hx]

/-- A string read of bytes with no NUL, then a NUL, gives the string they encode. -/
theorem Inv.getCString_of_unread (h : b.Inv) (herr : b.error = 0) {s : String}
    (hnul : 0 ∉ s.toUTF8.toList) {rest : List UInt8}
    (hun : b.unread = s.toUTF8.toList ++ 0 :: rest) :
  b.getCString = (.ok (some s), { b with get := b.get + (s.toUTF8.toList.length + 1 : Nat) })
  := by
  rw [h.getCString_eq, if_neg (by simp [herr]), hun, idxOf?_append_nul hnul]
  dsimp only
  rw [List.take_left, Utf8.decodeLossy_toUTF8, Int.natCast_add, Int.natCast_one, Int.add_assoc]

/-- Reading an item whose encoding begins the unread bytes gives the item back and moves `get`
past the encoding. -/
theorem Inv.readItem_of_unread (h : b.Inv) (herr : b.error = 0) {it : Item} (hnul : it.NulFree)
    {rest : List UInt8} (hun : b.unread = it.encoding ++ rest) :
  b.readItem it = (.ok (some it.value), { b with get := b.get + it.encoding.length })
  := by
  cases it with
  | u8 v =>
    rw [Item.encoding] at hun ⊢
    rw [readItem, getU8, show 1 = [v].length from rfl, h.readWith_of_unread herr hun]
    simp [Item.value]
  | i32 v =>
    rw [Item.encoding] at hun ⊢
    rw [readItem, getI32, show 4 = (le32 v.toUInt32).length from rfl,
      h.readWith_of_unread herr hun]
    simp [Item.value, LittleEndian.toNat_le32, LittleEndian.toSigned_toUInt32]
  | f32 bits =>
    rw [Item.encoding] at hun ⊢
    rw [readItem, getF32Bits, show 4 = (le32 bits).length from rfl,
      h.readWith_of_unread herr hun]
    simp [Item.value, LittleEndian.toNat_le32]
  | bytes bs =>
    rw [Item.encoding] at hun ⊢
    rw [readItem, getBytes, h.take_of_unread herr hun]
    rfl
  | cstring s =>
    rw [Item.encoding] at hun ⊢
    rw [List.append_assoc, List.singleton_append] at hun
    rw [readItem, h.getCString_of_unread herr hnul hun]
    simp [Item.value]

/-- Items whose encodings begin the unread bytes read back in order, and `get` moves past all
of them. -/
theorem Inv.reads (h : b.Inv) (herr : b.error = 0) {items : List Item}
    (hnul : ∀ it ∈ items, it.NulFree) {rest : List UInt8}
    (hun : b.unread = items.flatMap Item.encoding ++ rest) :
  b.each readItem items =
    (.ok (items.map fun it => some it.value),
      { b with get := b.get + (items.flatMap Item.encoding).length })
  := by
  induction items generalizing b with
  | nil => simp [each]
  | cons it its ih =>
    rw [List.flatMap_cons, List.append_assoc] at hun
    have hone := h.readItem_of_unread herr (hnul it List.mem_cons_self) hun
    have hlen := h.length_unread
    have hrem := h.remaining_eq
    obtain ⟨hget, hgp, -, -⟩ := h.bounds
    have hun₁ : { b with get := b.get + it.encoding.length }.unread =
        its.flatMap Item.encoding ++ rest := by
      rw [unread_advance hget, hun, List.drop_left]
    have h₁ : { b with get := b.get + it.encoding.length }.Inv := by
      refine (Moves.seek _ (by omega) ?_).inv h
      rw [hun, List.length_append] at hlen
      omega
    rw [each_cons_of_ok hone, ih h₁ herr (fun it' hit' => hnul it' (List.mem_cons_of_mem _ hit')) hun₁]
    simp only [Except.map, List.map_cons, List.flatMap_cons, List.length_append, Int.natCast_add,
      Int.add_assoc]

/-! ### The round trip -/

/-- In a buffer in shape with no error and nothing unread, items written by writes that all
succeed read back in order with the getters of their kinds, as long as no string holds a NUL;
then nothing is unread, and the written bytes are those from before followed by the items'
encodings. -/
theorem Inv.written_items_read_back (h : b.Inv) (herr : b.error = 0) (hget : b.get = b.put)
    (items : List Item) (hnul : ∀ it ∈ items, it.NulFree)
    (hput : (b.each writeItem items).1 = .ok (items.map fun _ => true)) :
  let w := (b.each writeItem items).2
  (w.each readItem items).1 = .ok (items.map fun it => some it.value) ∧
    (w.each readItem items).2.get = (w.each readItem items).2.put ∧
    (w.each readItem items).2.remaining = 0 ∧
    (w.each readItem items).2.data = b.data ++ items.flatMap Item.encoding
  := by
  intro w
  obtain ⟨hw, hdata, hwget, hwerr⟩ : w.Inv ∧ w.data = b.data ++ items.flatMap Item.encoding ∧
      w.get = b.get ∧ w.error = b.error := h.writes hput
  have hun : w.unread = items.flatMap Item.encoding ++ [] := by
    rw [hw.unread_eq, hdata, hwget, hget, ← h.length_data, List.drop_left, List.append_nil]
  rw [hw.reads (hwerr.trans herr) hnul hun]
  have hlen := hw.length_data
  rw [hdata, List.length_append, h.length_data] at hlen
  obtain ⟨hget₀, -, -, -⟩ := h.bounds
  obtain ⟨hwget₀, hwgp, -, -⟩ := hw.bounds
  refine ⟨rfl, ?_, ?_, hdata⟩
  · show w.get + _ = w.put
    omega
  · show (w.put - (w.get + _)).toNat = 0
    omega

theorem mixed_items_read_back :
  let b := external (List.replicate 16 0) 0 0
  let items := [Item.u8 7, .i32 (-2), .f32 0x3F800000, .bytes [1, 2], .cstring "hé"]
  (b.Inv ∧ b.error = 0 ∧ b.get = b.put ∧ (∀ it ∈ items, it.NulFree) ∧
    (b.each writeItem items).1 = .ok (items.map fun _ => true)) ∧
  let w := (b.each writeItem items).2
  (w.each readItem items).1 = .ok (items.map fun it => some it.value) ∧
    (w.each readItem items).2.get = (w.each readItem items).2.put ∧
    (w.each readItem items).2.remaining = 0 ∧
    (w.each readItem items).2.data = b.data ++ items.flatMap Item.encoding
  := by
  intro b items
  have h : b.Inv := inv_external _ _ _ (by decide)
  have hnul : ∀ it ∈ items, it.NulFree := by decide +kernel
  have hput : (b.each writeItem items).1 = .ok (items.map fun _ => true) := by decide +kernel
  exact ⟨⟨h, rfl, rfl, hnul, hput⟩, h.written_items_read_back rfl rfl items hnul hput⟩

end ByteBuffer

end EngineSdk
