import Mathlib
import EngineSdk.Studio.Memory

/-!
# Addressing the lists of a studio model

The accessors of a studio model find an element from three numbers read in memory: a count, the
signed byte offset of the first element from the struct that holds it, and the size of the
element's struct, which is the stride.  With the `repr(C)` layouts of the structs the strides are
216 bytes for a bone, 12 for a hitbox set and 68 for a hitbox, and the counts and offsets lie at
the declared fields: `num_bones` at 156 and `bone_index` at 160 of the header,
`num_hitbox_sets` at 172 and `hitbox_set_index` at 176, `num_hitboxes` at 4 and `hitbox_index`
at 8 of a set, and the name offsets at 0 of a bone or a set and at 32 of a hitbox.

Main statement: over any memory, element `i` is present exactly below the count clamped at
zero, at the holder's address plus its offset plus `i` strides; the lists give these addresses in
index order; a hitbox of a set composes two such hops; and a name is the C string at the
struct's own address plus its name offset, none for the offset zero or for bytes that are not
UTF-8 (`studio_accessors_address_declared_arrays`).
-/

namespace EngineSdk

/-! ### Strides and field offsets -/

@[simp] theorem studioBoneLayout_size : studioBoneLayout.size = 216 := by decide

@[simp] theorem studioHitboxSetLayout_size : studioHitboxSetLayout.size = 12 := by decide

@[simp] theorem studioBBoxLayout_size : studioBBoxLayout.size = 68 := by decide

/-- A field read at its layout's offset. -/
theorem Memory.i32At_eq (m : Memory) (s : CStruct) (a : Int) (field : String) (o : Nat)
    (h : s.offsetOf field = o) : m.i32At s a field = m.load Cell.i32 (a + o)
  := by
  rw [Memory.i32At, h]

/-- A field read at offset zero reads the struct's own address. -/
theorem Memory.i32At_of_offsetOf_eq_zero (m : Memory) (s : CStruct) (a : Int) (field : String)
    (h : s.offsetOf field = 0) : m.i32At s a field = m.load Cell.i32 a
  := by
  rw [m.i32At_eq s a field 0 h, Int.natCast_zero, add_zero]

/-! ### Elements below a count -/

theorem lt_visibleCount_iff (i : Nat) (c : Int) : i < visibleCount c ↔ (i : Int) < max c 0 := by
  unfold visibleCount
  omega

/-- The address of element `i` of a list that starts `first` bytes from `base`, `size` bytes
apart, and has `count` elements. -/
theorem element_address_eq (count first base : Int) (size i : Nat) :
  (if i ≥ visibleCount count then none else some (base + first + (i * size : Nat))) =
    if (i : Int) < max count 0 then some (base + first + size * i) else none
  := by
  by_cases h : i < visibleCount count
  · rw [if_neg (by omega), if_pos ((lt_visibleCount_iff i count).1 h)]
    push_cast
    ring_nf
  · rw [if_pos (by omega), if_neg (mt (lt_visibleCount_iff i count).2 h)]

/-- Probing every index below `n` with an accessor that answers `g i` below `n` lists `g` of
the indices in order. -/
theorem filterMap_range_of_below {β : Type} (n : Nat) (f : Nat → Option β) (g : Nat → β)
    (h : ∀ i, f i = if i < n then some (g i) else none) :
  (List.range n).filterMap f = (List.range n).map g
  := by
  rw [← List.filterMap_eq_map]
  apply List.filterMap_congr
  intro i hi
  simp [h, List.mem_range.1 hi]

/-- A name at offset zero is none; any other is the C string there, when it is UTF-8. -/
theorem relativeName_text (m : Memory) (base offset : Int) :
  (relativeName m base offset).text? =
    if offset = 0 then none else String.fromUTF8? ⟨(m.cstr (base + offset)).toArray⟩
  := by
  unfold relativeName
  split <;> rfl

/-! ### The accessors -/

namespace StudioHitboxSet

variable (m : Memory) (set : Int)

theorem numHitboxes_eq : numHitboxes m set = m.load Cell.i32 (set + 4) :=
  m.i32At_eq _ _ _ _ (by decide)

theorem hitboxIndex_eq : hitboxIndex m set = m.load Cell.i32 (set + 8) :=
  m.i32At_eq _ _ _ _ (by decide)

theorem hitbox_eq (i : Nat) :
  hitbox m set i = if (i : Int) < max (numHitboxes m set) 0 then
    some (set + hitboxIndex m set + 68 * i) else none
  := by
  rw [hitbox, element_address_eq, studioBBoxLayout_size]
  rfl

theorem hitboxes_eq : hitboxes m set =
    (List.range (visibleCount (numHitboxes m set))).map
      fun i : Nat => set + hitboxIndex m set + 68 * (i : Int)
  := by
  apply filterMap_range_of_below
  intro i
  simp only [hitbox_eq, lt_visibleCount_iff]

end StudioHitboxSet

namespace StudioHdr

variable (m : Memory) (hdr : Int)

theorem numBones_eq : numBones m hdr = m.load Cell.i32 (hdr + 156) :=
  m.i32At_eq _ _ _ _ (by decide)

theorem boneIndex_eq : boneIndex m hdr = m.load Cell.i32 (hdr + 160) :=
  m.i32At_eq _ _ _ _ (by decide)

theorem numHitboxSets_eq : numHitboxSets m hdr = m.load Cell.i32 (hdr + 172) :=
  m.i32At_eq _ _ _ _ (by decide)

theorem hitboxSetIndex_eq : hitboxSetIndex m hdr = m.load Cell.i32 (hdr + 176) :=
  m.i32At_eq _ _ _ _ (by decide)

theorem bone_eq (i : Nat) :
  bone m hdr i = if (i : Int) < max (numBones m hdr) 0 then
    some (hdr + boneIndex m hdr + 216 * i) else none
  := by
  rw [bone, element_address_eq, studioBoneLayout_size]
  rfl

theorem bones_eq : bones m hdr =
    (List.range (visibleCount (numBones m hdr))).map
      fun i : Nat => hdr + boneIndex m hdr + 216 * (i : Int)
  := by
  apply filterMap_range_of_below
  intro i
  simp only [bone_eq, lt_visibleCount_iff]

theorem hitboxSet_eq (s : Nat) :
  hitboxSet m hdr s = if (s : Int) < max (numHitboxSets m hdr) 0 then
    some (hdr + hitboxSetIndex m hdr + 12 * s) else none
  := by
  rw [hitboxSet, element_address_eq, studioHitboxSetLayout_size]
  rfl

/-- A hitbox of a set is found in two hops: the set from the header, the hitbox from the set. -/
theorem hitbox_eq_some_iff (s i : Nat) (a : Int) :
  hitbox m hdr s i = some a ↔ ∃ set, hitboxSet m hdr s = some set ∧
    (i : Int) < max (StudioHitboxSet.numHitboxes m set) 0 ∧
    a = set + StudioHitboxSet.hitboxIndex m set + 68 * i
  := by
  rw [hitbox, Option.bind_eq_some_iff]
  apply exists_congr
  intro set
  rw [StudioHitboxSet.hitbox_eq]
  split <;> simp_all [eq_comm]

end StudioHdr

/-! ### Names -/

theorem Bone.read_name_text (m : Memory) (a : Int) :
  (Bone.read m a).name.text? =
    if m.load Cell.i32 a = 0 then none
    else String.fromUTF8? ⟨(m.cstr (a + m.load Cell.i32 a)).toArray⟩
  := by
  rw [Bone.read, m.i32At_of_offsetOf_eq_zero studioBoneLayout a "name_index" (by decide),
    relativeName_text]

theorem HitboxSet.read_name_text (m : Memory) (a : Int) :
  (HitboxSet.read m a).name.text? =
    if m.load Cell.i32 a = 0 then none
    else String.fromUTF8? ⟨(m.cstr (a + m.load Cell.i32 a)).toArray⟩
  := by
  rw [HitboxSet.read, m.i32At_of_offsetOf_eq_zero studioHitboxSetLayout a "name_index" (by decide),
    relativeName_text]

theorem Hitbox.read_name_text (m : Memory) (a : Int) :
  (Hitbox.read m a).name.text? =
    if m.load Cell.i32 (a + 32) = 0 then none
    else String.fromUTF8? ⟨(m.cstr (a + m.load Cell.i32 (a + 32))).toArray⟩
  := by
  rw [Hitbox.read, m.i32At_eq studioBBoxLayout a "name_index" 32 (by decide), Nat.cast_ofNat,
    relativeName_text]

/-- Over any memory and any header address, the accessors of a studio model address exactly the
declared lists.  The counts and first offsets are read at the fields the layouts give.  Bone `i`
is present exactly when `i < max num_bones 0`, at the header plus `bone_index` plus `216 * i`;
hitbox set `s` exactly when `s < max num_hitbox_sets 0`, at the header plus `hitbox_set_index`
plus `12 * s`; hitbox `i` of a set exactly when `i < max num_hitboxes 0`, at the set plus its
`hitbox_index` plus `68 * i`, and a hitbox of set `s` of the header exactly when that set is
present and has it.  The lists give these addresses in index order.  The name of a bone, a set
or a hitbox is the C string at its own address plus its name offset, none when that offset is
zero or the bytes are not UTF-8. -/
theorem studio_accessors_address_declared_arrays (m : Memory) (hdr : Int) :
  (StudioHdr.numBones m hdr = m.load Cell.i32 (hdr + 156) ∧
    StudioHdr.boneIndex m hdr = m.load Cell.i32 (hdr + 160) ∧
    StudioHdr.numHitboxSets m hdr = m.load Cell.i32 (hdr + 172) ∧
    StudioHdr.hitboxSetIndex m hdr = m.load Cell.i32 (hdr + 176) ∧
    ∀ set, StudioHitboxSet.numHitboxes m set = m.load Cell.i32 (set + 4) ∧
      StudioHitboxSet.hitboxIndex m set = m.load Cell.i32 (set + 8)) ∧
  (∀ i : Nat, StudioHdr.bone m hdr i =
    if (i : Int) < max (StudioHdr.numBones m hdr) 0 then
      some (hdr + StudioHdr.boneIndex m hdr + 216 * i) else none) ∧
  (∀ s : Nat, StudioHdr.hitboxSet m hdr s =
    if (s : Int) < max (StudioHdr.numHitboxSets m hdr) 0 then
      some (hdr + StudioHdr.hitboxSetIndex m hdr + 12 * s) else none) ∧
  (∀ (set : Int) (i : Nat), StudioHitboxSet.hitbox m set i =
    if (i : Int) < max (StudioHitboxSet.numHitboxes m set) 0 then
      some (set + StudioHitboxSet.hitboxIndex m set + 68 * i) else none) ∧
  (∀ (s i : Nat) (a : Int), StudioHdr.hitbox m hdr s i = some a ↔
    ∃ set, StudioHdr.hitboxSet m hdr s = some set ∧
      (i : Int) < max (StudioHitboxSet.numHitboxes m set) 0 ∧
      a = set + StudioHitboxSet.hitboxIndex m set + 68 * i) ∧
  StudioHdr.bones m hdr = (List.range (max (StudioHdr.numBones m hdr) 0).toNat).map
    (fun i : Nat => hdr + StudioHdr.boneIndex m hdr + 216 * (i : Int)) ∧
  (∀ set, StudioHitboxSet.hitboxes m set =
    (List.range (max (StudioHitboxSet.numHitboxes m set) 0).toNat).map
      fun i : Nat => set + StudioHitboxSet.hitboxIndex m set + 68 * (i : Int)) ∧
  (∀ a, (Bone.read m a).name.text? =
    if m.load Cell.i32 a = 0 then none
    else String.fromUTF8? ⟨(m.cstr (a + m.load Cell.i32 a)).toArray⟩) ∧
  (∀ a, (HitboxSet.read m a).name.text? =
    if m.load Cell.i32 a = 0 then none
    else String.fromUTF8? ⟨(m.cstr (a + m.load Cell.i32 a)).toArray⟩) ∧
  (∀ a, (Hitbox.read m a).name.text? =
    if m.load Cell.i32 (a + 32) = 0 then none
    else String.fromUTF8? ⟨(m.cstr (a + m.load Cell.i32 (a + 32))).toArray⟩)
  :=
  ⟨⟨StudioHdr.numBones_eq m hdr, StudioHdr.boneIndex_eq m hdr, StudioHdr.numHitboxSets_eq m hdr,
      StudioHdr.hitboxSetIndex_eq m hdr, fun set =>
        ⟨StudioHitboxSet.numHitboxes_eq m set, StudioHitboxSet.hitboxIndex_eq m set⟩⟩,
    StudioHdr.bone_eq m hdr, StudioHdr.hitboxSet_eq m hdr, StudioHitboxSet.hitbox_eq m,
    StudioHdr.hitbox_eq_some_iff m hdr, StudioHdr.bones_eq m hdr, StudioHitboxSet.hitboxes_eq m,
    Bone.read_name_text m, HitboxSet.read_name_text m, Hitbox.read_name_text m⟩

end EngineSdk
