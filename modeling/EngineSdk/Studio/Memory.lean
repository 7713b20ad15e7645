import EngineSdk.Studio.Model
import EngineSdk.Bytes.Cell
import EngineSdk.Bytes.Layout

/-!
# Studio models in memory

The engine keeps a studio model in one block of memory.  The header holds, for its bones and its
hitbox sets, a count and the byte offset of the first element from the header itself; a hitbox
set holds the count of its hitboxes and their offset from the set; bones, sets and hitboxes hold
the offset of their name from themselves, zero for no name.  The elements of a list lie one
after the other, as far apart as the size of their struct, and every offset is signed.

`StudioHdr.bone`, `StudioHdr.hitboxSet` and `StudioHitboxSet.hitbox` give the address of an
element, none past the count, and none at all for a negative count; `bones` and `hitboxes` list
the addresses in order.  `Bone.read`, `HitboxSet.read` and `Hitbox.read` read an element back.
`StudioModel.layOut` lays a described model out: the header at address 0, then the bones, the
sets, the hitboxes set by set, and the names.
-/

namespace EngineSdk

/-! ### Layouts of the structs -/

/-- The leading fields of a studio header. -/
def studioHdrLayout : CStruct :=
  ⟨[("id", .i32), ("version", .i32), ("checksum", .i32), ("name", CType.byte.array 64),
    ("length", .i32), ("eye_position", .vector 3), ("illum_position", .vector 3),
    ("hull_min", .vector 3), ("hull_max", .vector 3), ("view_bbmin", .vector 3),
    ("view_bbmax", .vector 3), ("flags", .i32), ("num_bones", .i32), ("bone_index", .i32),
    ("num_bone_controllers", .i32), ("bone_controller_index", .i32), ("num_hitbox_sets", .i32),
    ("hitbox_set_index", .i32), ("num_local_anim", .i32), ("local_anim_index", .i32),
    ("num_local_seq", .i32), ("local_seq_index", .i32), ("activity_list_version", .i32),
    ("events_indexed", .i32), ("num_textures", .i32), ("texture_index", .i32)]⟩

/-- A bone. -/
def studioBoneLayout : CStruct :=
  ⟨[("name_index", .i32), ("parent", .i32), ("bone_controller", CType.i32.array 6),
    ("pos", .vector 3), ("quat", .vector 4), ("rot", .vector 3), ("pos_scale", .vector 3),
    ("rot_scale", .vector 3), ("pose_to_bone", .matrix 3 4), ("alignment", .vector 4),
    ("flags", .i32), ("proc_type", .i32), ("proc_index", .i32), ("physics_bone", .i32),
    ("surface_prop_index", .i32), ("contents", .i32), ("unused", CType.i32.array 8)]⟩

/-- A hitbox set. -/
def studioHitboxSetLayout : CStruct :=
  ⟨[("name_index", .i32), ("num_hitboxes", .i32), ("hitbox_index", .i32)]⟩

/-- A hitbox. -/
def studioBBoxLayout : CStruct :=
  ⟨[("bone", .i32), ("group", .i32), ("bbmin", .vector 3), ("bbmax", .vector 3),
    ("name_index", .i32), ("unused", CType.i32.array 8)]⟩

/-! ### Reading memory -/

/-- Memory as a block of bytes from address 0; what lies outside it reads as zero. -/
structure Memory where
  bytes : List UInt8

namespace Memory

/-- The value at an address. -/
def load {α : Type} (m : Memory) (cell : Cell α) (a : Int) : α :=
  if a < 0 then cell.decode (List.replicate cell.width 0) else cell.load m.bytes a.toNat

/-- The 32-bit integer in the field `field` of the struct `s` at `a`. -/
def i32At (m : Memory) (s : CStruct) (a : Int) (field : String) : Int :=
  m.load Cell.i32 (a + s.offsetOf field)

/-- The three coordinates in the field `field` of the struct `s` at `a`. -/
def vec3At (m : Memory) (s : CStruct) (a : Int) (field : String) : Vec 3 :=
  let p := a + s.offsetOf field
  ⟨#v[m.load Cell.f32 p, m.load Cell.f32 (p + 4), m.load Cell.f32 (p + 8)]⟩

/-- The `n` bytes from an address on. -/
def bytesAt (m : Memory) (a : Int) (n : Nat) : List UInt8 :=
  if a < 0 then List.replicate n 0 else Cell.slice m.bytes a.toNat n

/-- The bytes of the C string at an address, up to its NUL. -/
def cstr (m : Memory) (a : Int) : List UInt8 :=
  if a < 0 then [] else (m.bytes.drop a.toNat).takeWhile (· != 0)

end Memory

/-- The name at a signed offset from a struct: none for the offset zero, otherwise the C string
there. -/
def relativeName (m : Memory) (base offset : Int) : CString :=
  if offset = 0 then none else some (m.cstr (base + offset))

/-- How many elements a signed count makes visible: none when it is negative. -/
def visibleCount (count : Int) : Nat := (max count 0).toNat

/-! ### Addressing the lists -/

namespace StudioHitboxSet

/-- The number of hitboxes the set claims. -/
def numHitboxes (m : Memory) (set : Int) : Int := m.i32At studioHitboxSetLayout set "num_hitboxes"

/-- The offset of the first hitbox from the set. -/
def hitboxIndex (m : Memory) (set : Int) : Int := m.i32At studioHitboxSetLayout set "hitbox_index"

/-- The address of hitbox `index`: none past the count. -/
def hitbox (m : Memory) (set : Int) (index : Nat) : Option Int :=
  if index ≥ visibleCount (numHitboxes m set) then none
  else some (set + hitboxIndex m set + (index * studioBBoxLayout.size : Nat))

/-- The addresses of the hitboxes, in order. -/
def hitboxes (m : Memory) (set : Int) : List Int :=
  (List.range (visibleCount (numHitboxes m set))).filterMap (hitbox m set)

end StudioHitboxSet

namespace StudioHdr

/-- The number of bones the header claims. -/
def numBones (m : Memory) (hdr : Int) : Int := m.i32At studioHdrLayout hdr "num_bones"

/-- The offset of the first bone from the header. -/
def boneIndex (m : Memory) (hdr : Int) : Int := m.i32At studioHdrLayout hdr "bone_index"

/-- The number of hitbox sets the header claims. -/
def numHitboxSets (m : Memory) (hdr : Int) : Int := m.i32At studioHdrLayout hdr "num_hitbox_sets"

/-- The offset of the first hitbox set from the header. -/
def hitboxSetIndex (m : Memory) (hdr : Int) : Int :=
  m.i32At studioHdrLayout hdr "hitbox_set_index"

/-- The model's path: the bytes of the name field before its first NUL, read as UTF-8 with bad
sequences replaced. -/
def name (m : Memory) (hdr : Int) : String :=
  Utf8.decodeLossy ((m.bytesAt (hdr + studioHdrLayout.offsetOf "name") 64).takeWhile (· != 0))

/-- The address of bone `index`: none past the count. -/
def bone (m : Memory) (hdr : Int) (index : Nat) : Option Int :=
  if index ≥ visibleCount (numBones m hdr) then none
  else some (hdr + boneIndex m hdr + (index * studioBoneLayout.size : Nat))

/-- The addresses of the bones, in order. -/
def bones (m : Memory) (hdr : Int) : List Int :=
  (List.range (visibleCount (numBones m hdr))).filterMap (bone m hdr)

/-- The address of hitbox set `index`: none past the count. -/
def hitboxSet (m : Memory) (hdr : Int) (index : Nat) : Option Int :=
  if index ≥ visibleCount (numHitboxSets m hdr) then none
  else some (hdr + hitboxSetIndex m hdr + (index * studioHitboxSetLayout.size : Nat))

/-- The address of hitbox `index` of set `set`. -/
def hitbox (m : Memory) (hdr : Int) (set index : Nat) : Option Int :=
  (hitboxSet m hdr set).bind (StudioHitboxSet.hitbox m · index)

end StudioHdr

/-! ### Reading elements back -/

/-- The bone at an address. -/
def Bone.read (m : Memory) (a : Int) : Bone :=
  ⟨relativeName m a (m.i32At studioBoneLayout a "name_index"), m.i32At studioBoneLayout a "parent",
    m.i32At studioBoneLayout a "flags"⟩

/-- The hitbox at an address. -/
def Hitbox.read (m : Memory) (a : Int) : Hitbox :=
  ⟨m.i32At studioBBoxLayout a "bone", m.i32At studioBBoxLayout a "group",
    m.vec3At studioBBoxLayout a "bbmin", m.vec3At studioBBoxLayout a "bbmax",
    relativeName m a (m.i32At studioBBoxLayout a "name_index")⟩

/-- The hitbox set at an address, with its visible hitboxes. -/
def HitboxSet.read (m : Memory) (a : Int) : HitboxSet :=
  ⟨relativeName m a (m.i32At studioHitboxSetLayout a "name_index"),
    StudioHitboxSet.numHitboxes m a, (StudioHitboxSet.hitboxes m a).map (Hitbox.read m)⟩

/-! ### Laying a model out -/

/-- Bytes to write from an address on. -/
abbrev Write := Nat × List UInt8

/-- A 32-bit integer for the field `field` of the struct `s` at `a`. -/
def fieldWrite (s : CStruct) (a : Nat) (field : String) (v : Int) : Write :=
  (a + s.offsetOf field, Cell.i32.encode v)

/-- Three coordinates for the field `field` of the struct `s` at `a`. -/
def vec3Write (s : CStruct) (a : Nat) (field : String) (v : Vec 3) : Write :=
  (a + s.offsetOf field, v.toList.flatMap Cell.f32.encode)

/-- Names laid one after the other from `pos` on, each with its NUL: for each named struct, by
address, the offset of its name from it (zero for none), and the writes of the names. -/
def placeNames : Nat → List (Nat × CString) → List Int × List Write
  | _, [] => ([], [])
  | pos, (_, none) :: rest =>
    let r := placeNames pos rest
    (0 :: r.1, r.2)
  | pos, (a, some bs) :: rest =>
    let r := placeNames (pos + bs.length + 1) rest
    (((pos : Int) - a) :: r.1, (pos, bs ++ [0]) :: r.2)

/-- A block of `size` bytes holding the writes, later ones over earlier ones. -/
def writeAll (size : Nat) (ws : List Write) : Memory :=
  ⟨ws.foldl (fun block w => Cell.writeBytes block w.1 w.2) (List.replicate size 0)⟩

/-- The model in memory: the header at address 0, the bones right after it, then the sets, the
hitboxes of each set in turn, and the names. -/
def StudioModel.layOut (sm : StudioModel) : Memory :=
  let bonesAt := studioHdrLayout.size
  let setsAt := bonesAt + sm.bones.length * studioBoneLayout.size
  let boxesAt := setsAt + sm.sets.length * studioHitboxSetLayout.size
  let boneAddrs := (List.range sm.bones.length).map (bonesAt + · * studioBoneLayout.size)
  let setAddrs := (List.range sm.sets.length).map (setsAt + · * studioHitboxSetLayout.size)
  -- the first hitbox of each set, counted over all sets
  let firsts := (sm.sets.map (·.hitboxes.length)).scanl (· + ·) 0
  let boxes := (sm.sets.zip firsts).flatMap fun (s, first) =>
    (s.hitboxes.zip (List.range s.hitboxes.length)).map fun (h, k) =>
      (boxesAt + (first + k) * studioBBoxLayout.size, h)
  let namesAt := boxesAt + boxes.length * studioBBoxLayout.size
  let (nameIndex, nameWrites) := placeNames namesAt
    ((boneAddrs.zip (sm.bones.map (·.name))) ++ (setAddrs.zip (sm.sets.map (·.name))) ++
      boxes.map fun (a, h) => (a, h.name))
  let boneIdx := nameIndex.take sm.bones.length
  let setIdx := (nameIndex.drop sm.bones.length).take sm.sets.length
  let boxIdx := nameIndex.drop (sm.bones.length + sm.sets.length)
  let header : List Write :=
    [(studioHdrLayout.offsetOf "name", sm.nameField.take 64),
      fieldWrite studioHdrLayout 0 "num_bones" sm.boneCount,
      fieldWrite studioHdrLayout 0 "bone_index" bonesAt,
      fieldWrite studioHdrLayout 0 "num_hitbox_sets" sm.setCount,
      fieldWrite studioHdrLayout 0 "hitbox_set_index" setsAt]
  let boneWrites := ((boneAddrs.zip sm.bones).zip boneIdx).flatMap fun ((a, b), n) =>
    [fieldWrite studioBoneLayout a "name_index" n, fieldWrite studioBoneLayout a "parent" b.parent,
      fieldWrite studioBoneLayout a "flags" b.flags]
  let setWrites := (((setAddrs.zip sm.sets).zip firsts).zip setIdx).flatMap fun (((a, s), first), n) =>
    [fieldWrite studioHitboxSetLayout a "name_index" n,
      fieldWrite studioHitboxSetLayout a "num_hitboxes" s.count,
      fieldWrite studioHitboxSetLayout a "hitbox_index"
        ((boxesAt + first * studioBBoxLayout.size : Nat) - (a : Int))]
  let boxWrites := (boxes.zip boxIdx).flatMap fun ((a, h), n) =>
    [fieldWrite studioBBoxLayout a "bone" h.bone, fieldWrite studioBBoxLayout a "group" h.group,
      vec3Write studioBBoxLayout a "bbmin" h.bbmin, vec3Write studioBBoxLayout a "bbmax" h.bbmax,
      fieldWrite studioBBoxLayout a "name_index" n]
  let size := namesAt + (nameWrites.flatMap (·.2)).length
  writeAll size (header ++ boneWrites ++ setWrites ++ boxWrites ++ nameWrites)

end EngineSdk
