/-!
# Layouts of `repr(C)` structs

Where the fields of an engine structure lie.  A `repr(C)` struct keeps its fields in declaration
order, each at the first multiple of its alignment at or after the end of the field before; its
alignment is the largest of its fields', and its size is the end of its last field rounded up to
its alignment.  An array of `n` elements takes `n` times the element's size, with the element's
alignment.  Pointers take eight bytes, as on the 64-bit targets.
-/

namespace EngineSdk

/-- The size and alignment of a type, in bytes. -/
structure CType where
  size : Nat
  align : Nat
deriving Repr, DecidableEq

/-- `n` rounded up to a multiple of `a`. -/
def alignUp (a n : Nat) : Nat := (n + a - 1) / a * a

namespace CType

/-- A 32-bit integer. -/
def i32 : CType := ⟨4, 4⟩

/-- A binary32 number. -/
def f32 : CType := ⟨4, 4⟩

/-- A boolean or a C character. -/
def byte : CType := ⟨1, 1⟩

/-- A pointer. -/
def ptr : CType := ⟨8, 8⟩

/-- An array of `n` elements of type `t`. -/
def array (t : CType) (n : Nat) : CType := ⟨t.size * n, t.align⟩

/-- A vector of `n` binary32 coordinates. -/
def vector (n : Nat) : CType := f32.array n

/-- A matrix of `r` rows of `c` binary32 entries. -/
def matrix (r c : Nat) : CType := (f32.array c).array r

end CType

/-- A `repr(C)` struct: its named fields in declaration order. -/
structure CStruct where
  fields : List (String × CType)

namespace CStruct

/-- Fields placed in order from `pos` on: each field's offset. -/
def placeFrom : List (String × CType) → Nat → List (String × Nat)
  | [], _ => []
  | (name, t) :: fs, pos => (name, alignUp t.align pos) :: placeFrom fs (alignUp t.align pos + t.size)

/-- The end of the last of the fields placed in order from `pos` on. -/
def endFrom : List (String × CType) → Nat → Nat
  | [], pos => pos
  | (_, t) :: fs, pos => endFrom fs (alignUp t.align pos + t.size)

/-- The offset of every field. -/
def offsets (s : CStruct) : List (String × Nat) := placeFrom s.fields 0

/-- The offset of the field `name`; zero for a name the struct does not have. -/
def offsetOf (s : CStruct) (name : String) : Nat := (s.offsets.lookup name).getD 0

/-- The alignment: the largest of the fields'. -/
def align (s : CStruct) : Nat := s.fields.foldr (fun f a => max f.2.align a) 1

/-- The size: the end of the last field, rounded up to the alignment. -/
def size (s : CStruct) : Nat := alignUp s.align (endFrom s.fields 0)

/-- The struct as a field of another. -/
def type (s : CStruct) : CType := ⟨s.size, s.align⟩

end CStruct

end EngineSdk
