import EngineSdk.Math.Single
import EngineSdk.Panic

/-!
# Fixed-size single-precision vectors

`Vec n` is a point or direction with `n` binary32 coordinates, as the engine lays out its
2-, 3- and 4-component vectors.  Every operation works coordinate by coordinate in binary32,
with one rounding per arithmetic step, in the order stated in its doc comment: the results are
the engine's to the last bit, so no expression here may be reassociated.

Indexing is checked: `Vec.get` and `Vec.set` abort with `Panic.indexOutOfBounds` past the end.
-/

namespace EngineSdk

/-- A vector of `n` binary32 coordinates. -/
structure Vec (n : Nat) where
  coords : Vector Float32 n

namespace Vec

variable {n : Nat}

/-- The vector with the coordinates of a list of length `n`. -/
def ofVector (v : Vector Float32 n) : Vec n := ⟨v⟩

/-- The coordinates, first to last. -/
def toList (v : Vec n) : List Float32 := v.coords.toList

/-- Every coordinate equal to `s`. -/
def splat (s : Float32) : Vec n := ⟨Vector.replicate n s⟩

/-- The zero vector. -/
def zero : Vec n := splat 0

/-- Coordinate-wise sum. -/
def add (a b : Vec n) : Vec n := ⟨Vector.zipWith (· + ·) a.coords b.coords⟩

/-- Coordinate-wise difference. -/
def sub (a b : Vec n) : Vec n := ⟨Vector.zipWith (· - ·) a.coords b.coords⟩

/-- Every coordinate times `s`. -/
def scale (a : Vec n) (s : Float32) : Vec n := ⟨a.coords.map (· * s)⟩

/-- Every coordinate divided by `s`. -/
def divide (a : Vec n) (s : Float32) : Vec n := ⟨a.coords.map (· / s)⟩

/-- The opposite vector, as the product with `-1`: a zero coordinate changes its sign. -/
def neg (a : Vec n) : Vec n := a.scale (-1)

/-- Coordinate-wise product. -/
def mulElem (a b : Vec n) : Vec n := ⟨Vector.zipWith (· * ·) a.coords b.coords⟩

/-- The dot product: the coordinate products added first to last onto `-0`, the neutral element
of addition, so that products that are all `-0` add up to `-0`. -/
def dot (a b : Vec n) : Float32 :=
  (Vector.zipWith (· * ·) a.coords b.coords).foldl (· + ·) (-0)

/-- The squared length, `a · a`. -/
def lengthSq (a : Vec n) : Float32 := a.dot a

/-- The length, the square root of the squared length. -/
def length (a : Vec n) : Float32 := a.lengthSq.sqrt

/-- The distance to `b`: the length of `a - b`. -/
def distance (a b : Vec n) : Float32 := (a.sub b).length

/-- The vector divided by its length; a vector of length at most `2 ^ -23` is kept as it is. -/
def normalized (a : Vec n) : Vec n :=
  let len := a.length
  if len ≤ Single.epsilon then a else a.divide len

/-- Every coordinate is at most `0.01` away from zero. -/
def isZero (a : Vec n) : Bool := a.coords.all fun c => c.abs ≤ 0.01

/-- The point at parameter `t` on the line from `a` to `b`: `a + (b - a) * t`, for any `t`. -/
def lerp (a b : Vec n) (t : Float32) : Vec n := a.add ((b.sub a).scale t)

/-- Equality of all coordinates as numbers: a NaN coordinate is equal to nothing, and `0` equals
`-0`. -/
def beq (a b : Vec n) : Bool :=
  (Vector.zipWith (· == ·) a.coords b.coords).all id

/-- The coordinate at `i`. -/
def get (a : Vec n) (i : Nat) : Except Panic Float32 :=
  if h : i < n then .ok a.coords[i] else .error (.indexOutOfBounds n i)

/-- The vector with coordinate `i` replaced by `s`. -/
def set (a : Vec n) (i : Nat) (s : Float32) : Except Panic (Vec n) :=
  if h : i < n then .ok ⟨a.coords.set i s h⟩ else .error (.indexOutOfBounds n i)

/-- The first coordinate of a vector with at least one. -/
def x (a : Vec (n + 1)) : Float32 := a.coords[0]

/-- The second coordinate of a vector with at least two. -/
def y (a : Vec (n + 2)) : Float32 := a.coords[1]

/-- The third coordinate of a vector with at least three. -/
def z (a : Vec (n + 3)) : Float32 := a.coords[2]

end Vec

/-- The plane vector `(x, y)`. -/
def Vec.mk2 (x y : Float32) : Vec 2 := ⟨#v[x, y]⟩

/-- The space vector `(x, y, z)`. -/
def Vec.mk3 (x y z : Float32) : Vec 3 := ⟨#v[x, y, z]⟩

/-- The vector `(x, y, z, w)`. -/
def Vec.mk4 (x y z w : Float32) : Vec 4 := ⟨#v[x, y, z, w]⟩

/-- The cross product `(ay bz - az by, az bx - ax bz, ax by - ay bx)`. -/
def Vec.cross (a b : Vec 3) : Vec 3 :=
  Vec.mk3 (a.y * b.z - a.z * b.y) (a.z * b.x - a.x * b.z) (a.x * b.y - a.y * b.x)

/-- The length of the projection onto the horizontal plane, `sqrt (x * x + y * y)`. -/
def Vec.length2d (a : Vec 3) : Float32 := (a.x * a.x + a.y * a.y).sqrt

end EngineSdk
