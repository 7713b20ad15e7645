import EngineSdk.Math.Vec

/-!
# Single-precision matrices

`Matrix r c` has `r` rows of `c` binary32 entries, stored row by row as the engine stores bone
transforms (3 by 4) and view-projection matrices (4 by 4).  A product cell adds the products
of a row and a column in index order onto `0`, one rounding per step.

A 3 by 4 matrix is an affine map: its first three columns act on a point and its last column is
the translation, `Matrix.origin`.
-/

namespace EngineSdk

/-- A matrix of `r` rows and `c` columns of binary32 entries. -/
structure Matrix (r c : Nat) where
  rows : Vector (Vec c) r

namespace Matrix

variable {r c k : Nat}

/-- The matrix whose entry in row `i` and column `j` is `f i j`. -/
def ofFn (f : Fin r → Fin c → Float32) : Matrix r c :=
  ⟨Vector.ofFn fun i => ⟨Vector.ofFn (f i)⟩⟩

/-- The entry in row `i` and column `j`. -/
def entry (m : Matrix r c) (i : Fin r) (j : Fin c) : Float32 := m.rows[i].coords[j]

/-- The zero matrix. -/
def zero : Matrix r c := ofFn fun _ _ => 0

/-- The identity matrix. -/
def identity : Matrix r r := ofFn fun i j => if i = j then 1 else 0

/-- The transpose. -/
def transpose (m : Matrix r c) : Matrix c r := ofFn fun i j => m.entry j i

/-- The matrix product: each cell adds `a i l * b l j` for `l` from first to last onto `0`. -/
def mul (a : Matrix r k) (b : Matrix k c) : Matrix r c :=
  ofFn fun i j => (List.finRange k).foldl (fun acc l => acc + a.entry i l * b.entry l j) 0

/-- Row `i`. -/
def row (m : Matrix r c) (i : Nat) : Except Panic (Vec c) :=
  if h : i < r then .ok m.rows[i] else .error (.indexOutOfBounds r i)

/-- Column `j`. -/
def column (m : Matrix r c) (j : Nat) : Except Panic (Vec r) :=
  if h : j < c then .ok ⟨Vector.ofFn fun i => m.entry i ⟨j, h⟩⟩ else .error (.indexOutOfBounds c j)

/-- Equality of all entries as numbers. -/
def beq (a b : Matrix r c) : Bool :=
  (Vector.zipWith Vec.beq a.rows b.rows).all id

/-- A row applied to a point as an affine map: `p0 * r0 + p1 * r1 + p2 * r2 + r3`, left to
right. -/
def affineRow (row : Vec 4) (p : Vec 3) : Float32 :=
  p.x * row.x + p.y * row.y + p.z * row.z + row.coords[3]

/-- The translation column of an affine map. -/
def origin (m : Matrix 3 4) : Vec 3 :=
  Vec.mk3 (m.entry 0 3) (m.entry 1 3) (m.entry 2 3)

/-- The image of a point under an affine map. -/
def transformPoint (m : Matrix 3 4) (p : Vec 3) : Vec 3 :=
  Vec.mk3 (affineRow m.rows[0] p) (affineRow m.rows[1] p) (affineRow m.rows[2] p)

/-- Screen projection before the perspective division: rows 0, 1 and 3 applied to the point,
giving `x`, `y` and `w`. -/
def project (m : Matrix 4 4) (p : Vec 3) : Float32 × Float32 × Float32 :=
  (affineRow m.rows[0] p, affineRow m.rows[1] p, affineRow m.rows[3] p)

end Matrix

end EngineSdk
