import Mathlib
import EngineSdk.Container.Block

/-!
# Views of blocks and vectors

A block spans the first `count` elements of its storage, and a vector over a block uses the
first `min size count` of those.  Every way of reading either (element lookup, writing one
element, search, the list of elements and its text) sees the same prefix of the storage.

Both counts are kept in signed 32-bit fields, so a count handed over is read back as
`i32Count n`: `n` itself below `2 ^ 31`, and in general its low 32 bits read as a signed number,
none when that is negative.  A block over `2 ^ 31` elements spans none of them.

* `Block.Presents b L n w` says that `b` shows the first `n` elements of `L`: it reads element
  `i` exactly for `i < n`, writes it exactly when `w` allows writing and `i < n`, and a write
  changes only that element of the storage.  A block over external storage presents its storage
  up to its count, writable unless it is constant (`presents_of_external`); the empty block
  presents nothing.
* `BlockVec.Presents v L n c` says the same of a vector of capacity `c`, together with search:
  the index found is the least below `n` that holds the element.  A vector whose writable block
  presents its storage up to the capacity presents the first `length` elements of it
  (`presents_of_block`).
* `views_present_prefix` gathers these for every constructor, with the grow size that tells
  external and constant storage apart; below `2 ^ 31` elements the counts are the ones handed
  over.
-/

namespace EngineSdk

variable {α : Type}

/-! ### Counts in 32 bits -/

/-- The number of elements a signed 32-bit count shows for `n` elements: the low 32 bits of `n`
read as a signed number, none when that number is negative. -/
def i32Count (n : Nat) : Nat := (Int32.ofNat n).toInt.toNat

theorem i32Count_eq (n : Nat) :
  i32Count n = if n % 2 ^ 32 < 2 ^ 31 then n % 2 ^ 32 else 0
  := by
  rw [i32Count, Int32.toInt_ofNat', Int.bmod_def]
  have hsize : ((Int32.size : Nat) : Int) = 2 ^ 32 := rfl
  rw [hsize]
  split_ifs <;> omega

theorem i32Count_of_lt {n : Nat} (h : n < 2 ^ 31) : i32Count n = n := by
  rw [i32Count_eq, if_pos (by omega)]
  omega

theorem i32Count_le (n : Nat) : i32Count n ≤ n := by
  rw [i32Count_eq]
  split <;> omega

@[simp] theorem Block.count_ofExternal (L : List α) (n : Nat) :
  (Block.ofExternal L n).count = i32Count n
  := rfl

@[simp] theorem Block.count_ofExternalConst (L : List α) (n : Nat) :
  (Block.ofExternalConst L n).count = i32Count n
  := rfl

@[simp] theorem Block.isNull_ofExternal (L : List α) (n : Nat) :
  (Block.ofExternal L n).isNull = false
  := rfl

@[simp] theorem Block.storage_ofExternal (L : List α) (n : Nat) :
  (Block.ofExternal L n).storage = L
  := rfl

namespace Block

/-- The block shows the first `n` elements of `L`, writable when `writable` says so. -/
structure Presents (b : Block α) (L : List α) (n : Nat) (writable : Bool) : Prop where
  get?_eq : ∀ i, b.get? i = if i < n then L[i]? else none
  set?_isSome_iff : ∀ i x, (b.set? i x).isSome ↔ writable = true ∧ i < n
  set?_frame : ∀ i x b', b.set? i x = some b' →
    b'.count = n ∧ b'.origin = b.origin ∧ ∀ j, b'.storage[j]? = if j = i then some x else L[j]?
  toList_eq : b.toList = L.take n

theorem isExternal_iff (b : Block α) : b.isExternal = true ↔ b.growSize < 0 := by
  simp [isExternal]

theorem isReadOnly_iff (b : Block α) : b.isReadOnly = true ↔ b.growSize = -2 := by
  cases h : b.origin <;> simp [isReadOnly, growSize, h, externalMarker, externalConstMarker]

theorem isNull_eq_false_of_isExternal {b : Block α} (h : b.isExternal = true) :
  b.isNull = false
  := by
  cases ho : b.origin <;> simp_all [isExternal, isNull, growSize]

theorem set?_of_isNull_eq_false {b : Block α} (hnull : b.isNull = false) (i : Nat) (x : α) :
  b.set? i x =
    if b.isReadOnly = false ∧ i < b.count then some { b with storage := b.storage.set i x }
    else none
  := by
  by_cases hro : b.isReadOnly <;> by_cases hi : i < b.count <;>
    simp [set?, isIndexValid, hnull, hro, hi]

/-- A block over external storage, no more than the storage holds, shows the storage up to its
count, and can be written unless it is constant. -/
theorem presents_of_external {b : Block α} (hext : b.isExternal = true)
    (hn : b.count ≤ b.storage.length) : b.Presents b.storage b.count (!b.isReadOnly)
  := by
  have hnull := isNull_eq_false_of_isExternal hext
  refine ⟨fun i => ?_, fun i x => ?_, fun i x b' hb' => ?_, ?_⟩
  · by_cases hi : i < b.count <;> simp [get?, isIndexValid, hnull, hi]
  · rw [set?_of_isNull_eq_false hnull]
    split <;> simp_all
  · rw [set?_of_isNull_eq_false hnull] at hb'
    split at hb'
    · obtain ⟨-, hi⟩ := ‹_ ∧ _›
      cases hb'
      refine ⟨rfl, rfl, fun j => ?_⟩
      rw [List.getElem?_set]
      by_cases hj : j = i
      · simp [hj, show i < b.storage.length by omega]
      · simp [hj, Ne.symm hj]
    · cases hb'
  · simp [toList, hnull]

theorem presents_ofExternal (L : List α) {n : Nat} (hn : n ≤ L.length) :
  (ofExternal L n).Presents L (i32Count n) true
  :=
  presents_of_external (b := ofExternal L n) rfl ((i32Count_le n).trans hn)

theorem presents_ofExternalConst (L : List α) {n : Nat} (hn : n ≤ L.length) :
  (ofExternalConst L n).Presents L (i32Count n) false
  :=
  presents_of_external (b := ofExternalConst L n) rfl ((i32Count_le n).trans hn)

theorem presents_empty : (empty : Block α).Presents [] 0 false :=
  ⟨fun i => rfl, fun i x => by simp [set?, empty, isNull], fun i x b' h => by
    simp [set?, empty, isNull] at h, rfl⟩

end Block

namespace BlockVec

/-- The vector uses the first `n` elements of `L`, in a block of capacity `c`. -/
structure Presents [DecidableEq α] (v : BlockVec α) (L : List α) (n c : Nat) : Prop where
  length_eq : v.length = n
  capacity_eq : v.capacity = c
  get?_eq : ∀ i, v.get? i = if i < n then L[i]? else none
  set?_isSome_iff : ∀ i x, (v.set? i x).isSome ↔ i < n
  set?_frame : ∀ i x v', v.set? i x = some v' →
    v'.length = n ∧ v'.capacity = c ∧ ∀ j, v'.block.storage[j]? = if j = i then some x else L[j]?
  find?_eq_some_iff : ∀ x i, v.find? x = some i ↔ i < n ∧ L[i]? = some x ∧ ∀ j < i, L[j]? ≠ some x
  find?_eq_none_iff : ∀ x, v.find? x = none ↔ ∀ j < n, L[j]? ≠ some x
  toList_eq : v.toList = L.take n
  describe_eq : ∀ write : α → String,
    v.describe write = "[" ++ ", ".intercalate ((L.take n).map write) ++ "]"

variable [DecidableEq α]

/-- Search in a prefix: the first index of `x` in the first `n` elements of `L`. -/
theorem idxOf?_take_eq_some_iff (L : List α) (n : Nat) (x : α) (i : Nat) :
  (L.take n).idxOf? x = some i ↔ i < n ∧ L[i]? = some x ∧ ∀ j < i, L[j]? ≠ some x
  := by
  rw [List.idxOf?_eq_some_iff]
  simp only [List.length_take, List.getElem_take]
  constructor
  · rintro ⟨hi, hx, hbefore⟩
    refine ⟨by omega, by simp [List.getElem?_eq_getElem (by omega : i < L.length), hx],
      fun j hj => ?_⟩
    rw [List.getElem?_eq_getElem (by omega : j < L.length)]
    simpa using hbefore j hj
  · rintro ⟨hi, hx, hbefore⟩
    have hiL : i < L.length := (List.getElem?_eq_some_iff.mp hx).1
    rw [List.getElem?_eq_getElem hiL, Option.some_inj] at hx
    refine ⟨by omega, hx, fun j hj => ?_⟩
    have := hbefore j hj
    rwa [List.getElem?_eq_getElem (by omega : j < L.length), Ne, Option.some_inj] at this

/-- No index of `x` among the first `n` elements of `L`. -/
theorem idxOf?_take_eq_none_iff (L : List α) (n : Nat) (x : α) :
  (L.take n).idxOf? x = none ↔ ∀ j < n, L[j]? ≠ some x
  := by
  rw [List.idxOf?_eq_none_iff, List.mem_iff_getElem?]
  simp only [List.getElem?_take, not_exists]
  constructor
  · intro hx j hj hjx
    exact hx j (by simp [hj, hjx])
  · intro hx j hj
    split at hj
    · exact hx j ‹_› hj
    · cases hj

/-- A vector whose block shows `L` up to the capacity, writable, uses the first `length`
elements of `L`. -/
theorem presents_of_block {v : BlockVec α} {L : List α} (hb : v.block.Presents L v.capacity true) :
  v.Presents L v.length v.capacity
  := by
  have hle : v.length ≤ v.capacity := min_le_right _ _
  have htoList : v.toList = L.take v.length := by
    rw [toList, hb.toList_eq, List.take_take, min_eq_left hle]
  refine ⟨rfl, rfl, fun i => ?_, fun i x => ?_, fun i x v' hv' => ?_,
    fun x i => by rw [find?, htoList, idxOf?_take_eq_some_iff],
    fun x => by rw [find?, htoList, idxOf?_take_eq_none_iff], htoList,
    fun write => by rw [describe, htoList]⟩
  · rw [get?, hb.get?_eq]
    by_cases hi : i < v.length
    · simp [hi, lt_of_lt_of_le hi hle]
    · simp [hi]
  · rw [set?]
    by_cases hi : i < v.length
    · simp [hi, (hb.set?_isSome_iff i x).mpr ⟨rfl, lt_of_lt_of_le hi hle⟩]
    · simp [hi]
  · rw [set?] at hv'
    split at hv'
    · obtain ⟨b', hb', rfl⟩ := Option.map_eq_some_iff.mp hv'
      obtain ⟨hcount, -, hframe⟩ := hb.set?_frame i x b' hb'
      exact ⟨by simp [length, capacity, hcount], hcount, hframe⟩
    · cases hv'

/-- A vector over external storage of capacity `c`, no more than the storage holds, and size
`s` uses the first elements of the storage up to the size it records, `min s c` cut to 32 bits,
and no further than the capacity it records. -/
theorem presents_external (L : List α) {c : Nat} (s : Nat) (hc : c ≤ L.length) :
  (external L c s).Presents L (min (i32Count (min s c)) (i32Count c)) (i32Count c)
  :=
  presents_of_block (v := external L c s) (Block.presents_ofExternal L hc)

/-- Below `2 ^ 31` elements the vector uses the first `min s c` elements, with capacity `c`. -/
theorem presents_external_of_lt (L : List α) {c : Nat} (s : Nat) (hc : c ≤ L.length)
    (h31 : c < 2 ^ 31) : (external L c s).Presents L (min s c) c
  := by
  have h := presents_external L s hc
  rwa [i32Count_of_lt h31, i32Count_of_lt (lt_of_le_of_lt (min_le_right s c) h31),
    min_eq_left (min_le_right s c)] at h

theorem presents_empty : (empty : BlockVec α).Presents [] 0 0 := by
  have htoList : (empty : BlockVec α).toList = [] := rfl
  refine ⟨rfl, rfl, fun i => rfl, fun i x => ?_, fun i x v' h => ?_, fun x i => ?_,
    fun x => ?_, htoList, fun write => by rw [describe, htoList]; rfl⟩
  · simp [set?, length, empty, Block.empty]
  · simp [set?, length, empty, Block.empty] at h
  · simp [find?, htoList]
  · simp [find?, htoList]

end BlockVec

/-- Blocks and vectors present a prefix of their storage, through every way of reading and
writing it.  Their counts are kept in 32 bits: a vector over external storage of capacity `c`
and size `s` uses the elements up to the size it records, `i32Count (min s c)`, and no further
than the capacity it records, `i32Count c`; a block over external storage spans the first
`i32Count n` elements.  Below `2 ^ 31` these are the counts handed over, `min s c` and `c`.
Only writable external storage can be written, the empty block and vector show nothing, and
external storage is told by a negative grow size, constant storage by the grow size `-2`. -/
theorem views_present_prefix [DecidableEq α] :
  (∀ n, i32Count n = if n % 2 ^ 32 < 2 ^ 31 then n % 2 ^ 32 else 0) ∧
  (∀ (L : List α) (c s : Nat), c ≤ L.length →
    (BlockVec.external L c s).Presents L (min (i32Count (min s c)) (i32Count c))
      (i32Count c)) ∧
  (∀ (L : List α) (c s : Nat), c ≤ L.length → c < 2 ^ 31 →
    (BlockVec.external L c s).Presents L (min s c) c) ∧
  (BlockVec.empty : BlockVec α).Presents [] 0 0 ∧
  (∀ (L : List α) (n : Nat), n ≤ L.length →
    (Block.ofExternal L n).Presents L (i32Count n) true ∧
    (Block.ofExternalConst L n).Presents L (i32Count n) false) ∧
  (Block.empty : Block α).Presents [] 0 false ∧
  (∀ b : Block α, (b.isExternal = true ↔ b.growSize < 0) ∧
    (b.isReadOnly = true ↔ b.growSize = -2))
  :=
  ⟨i32Count_eq, fun L _ s hc => BlockVec.presents_external L s hc,
    fun L _ s hc h31 => BlockVec.presents_external_of_lt L s hc h31, BlockVec.presents_empty,
    fun L _ hn => ⟨Block.presents_ofExternal L hn, Block.presents_ofExternalConst L hn⟩,
    Block.presents_empty, fun b => ⟨b.isExternal_iff, b.isReadOnly_iff⟩⟩

/-- A vector over `2 ^ 31` elements, all in use, records both counts as `-2 ^ 31`: its capacity
and length are zero and it has no element, nor has the block under it. -/
theorem vector_over_two_pow_31_shows_nothing :
  (BlockVec.external (List.replicate (2 ^ 31) (0 : Int)) (2 ^ 31) (2 ^ 31)).capacity = 0 ∧
    (BlockVec.external (List.replicate (2 ^ 31) (0 : Int)) (2 ^ 31) (2 ^ 31)).length = 0 ∧
    (BlockVec.external (List.replicate (2 ^ 31) (0 : Int)) (2 ^ 31) (2 ^ 31)).get? 0 = none ∧
    (Block.ofExternal (List.replicate (2 ^ 31) (0 : Int)) (2 ^ 31)).get? 0 = none
  := by
  decide

end EngineSdk
