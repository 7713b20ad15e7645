import EngineSdk.Math.Vec
import EngineSdk.Text.CString
import EngineSdk.Text.Utf8

/-!
# Studio models

A studio model header names the model and lists its bones and its hitbox sets; each hitbox
set lists hitboxes, boxes bound to a bone.  The header keeps its name in a fixed field of 64
bytes, and every list comes with the count the header claims, which may be less than its length
or negative.  How the engine lays these out in memory, and reads them back, is in
`EngineSdk.Studio.Memory`.

A bone's parent is an index, or none when negative; bone flags are 32-bit masks.  The centre of a
hitbox is `(bbmin + bbmax) * 0.5`, coordinate by coordinate in binary32.
-/

namespace EngineSdk

/-- The largest number of bones a model may have. -/
def maxStudioBones : Nat := 128

/-! Bone flags. -/
namespace BoneFlags

/-- The bone is used by a hitbox. -/
def usedByHitbox : Int := 0x100
/-- The bone is used by anything. -/
def usedByAnything : Int := 0x7FF00
/-- The bone is used by vertices at some level of detail. -/
def usedByVertexMask : Int := 0x3FC00

end BoneFlags

/-! Hit groups. -/
namespace HitGroup

/-- Anywhere. -/
def generic : Int := 0
/-- The head. -/
def head : Int := 1
/-- Gear. -/
def gear : Int := 10

end HitGroup

/-- A bone of a model. -/
structure Bone where
  name : CString
  parent : Int
  flags : Int
deriving Repr, DecidableEq

/-- A hitbox: a box bound to a bone, in a hit group. -/
structure Hitbox where
  bone : Int
  group : Int
  bbmin : Vec 3
  bbmax : Vec 3
  name : CString

/-- A named list of hitboxes. -/
structure HitboxSet where
  name : CString
  /-- The count the set claims. -/
  count : Int
  hitboxes : List Hitbox

/-- A model header with its bones and hitbox sets. -/
structure StudioModel where
  /-- The 64-byte name field. -/
  nameField : List UInt8
  boneCount : Int
  bones : List Bone
  setCount : Int
  sets : List HitboxSet

namespace Bone

/-- The parent index, when there is one. -/
def parent? (b : Bone) : Option Nat := if b.parent ≥ 0 then some b.parent.toNat else none

/-- Some bit of `mask` is set in the flags, as 32-bit masks. -/
def hasFlag (b : Bone) (mask : Int) : Bool := b.flags.toInt32 &&& mask.toInt32 != 0

end Bone

/-- The centre of a hitbox. -/
def Hitbox.center (h : Hitbox) : Vec 3 := (h.bbmin.add h.bbmax).scale 0.5

end EngineSdk
