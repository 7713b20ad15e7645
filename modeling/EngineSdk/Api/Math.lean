import EngineSdk.Api.Basic
import EngineSdk.Math.Matrix
import EngineSdk.Math.Angles

/-!
# Requests on vectors, matrices and angles

Each request names a function by `fn` and gives its operands as float lists.
-/

namespace EngineSdk.Api

/-- A request on three-component vectors. -/
def vector3 (req : Json) (fn : String) : Reply Json := do
  let a : Reply (Vec 3) := do vecIn 3 "a" (← need req "a")
  match fn with
  | "cross" => return vecOut ((← a).cross (← vecIn 3 "b" (← need req "b")))
  | "length_2d" => return f32Out (← a).length2d
  | "x" => return f32Out (← a).x
  | "y" => return f32Out (← a).y
  | "z" => return f32Out (← a).z
  | "new" => return vecOut (← a)
  | _ => refuse "unknown fn"

/-- A request on two-component vectors. -/
def vector2 (req : Json) (fn : String) : Reply Json := do
  let a : Reply (Vec 2) := do vecIn 2 "a" (← need req "a")
  match fn with
  | "x" => return f32Out (← a).x
  | "y" => return f32Out (← a).y
  | "new" => return vecOut (← a)
  | _ => refuse "unknown fn"

/-- A request on vectors of `n` components. -/
def vectorOp (n : Nat) (req : Json) (fn : String) : Reply Json := do
  let a : Reply (Vec n) := do vecIn n "a" (← need req "a")
  let b : Reply (Vec n) := do vecIn n "b" (← need req "b")
  let s : Reply Float32 := do f32In (← need req "s")
  let t : Reply Float32 := do f32In (← need req "t")
  let i : Reply Nat := do natIn (← need req "i")
  match fn with
  | "add" | "add_assign" => return vecOut ((← a).add (← b))
  | "sub" | "sub_assign" => return vecOut ((← a).sub (← b))
  | "neg" => return vecOut (← a).neg
  | "mul" | "mul_assign" => return vecOut ((← a).scale (← s))
  | "div" | "div_assign" => return vecOut ((← a).divide (← s))
  | "dot" => return f32Out ((← a).dot (← b))
  | "length" => return f32Out (← a).length
  | "length_sqr" => return f32Out (← a).lengthSq
  | "distance_to" => return f32Out ((← a).distance (← b))
  | "normalized" => return vecOut (← a).normalized
  | "is_zero" => return .bool (← a).isZero
  | "mul_elem" => return vecOut ((← a).mulElem (← b))
  | "lerp" => return vecOut ((← a).lerp (← b) (← t))
  | "eq" => return .bool ((← a).beq (← b))
  | "default" | "zero" => return vecOut (Vec.zero : Vec n)
  | "splat" => return vecOut (Vec.splat (← s) : Vec n)
  | "from_array" => return vecOut (← a)
  | "index" => return f32Out (← ofPanic ((← a).get (← i)))
  | "index_set" => return vecOut (← ofPanic ((← a).set (← i) (← s)))
  | _ => if n = 3 then vector3 req fn else if n = 2 then vector2 req fn else refuse "unknown fn"

/-- A `vector` request, by the vectors' dimension. -/
def vector (req : Json) (fn : String) : Reply Json := do
  let n ← match req.get? "a" with
    | some a => do pure (← arrIn a).length
    | none => do natIn (← need req "n")
  if n = 2 ∨ n = 3 ∨ n = 4 then vectorOp n req fn else refuse "vector size must be 2, 3 or 4"


/-- A matrix of any shape. -/
abbrev AnyMatrix := (r : Nat) × (c : Nat) × Matrix r c

/-- A matrix argument, as a list of rows. -/
def matIn (j : Json) : Reply AnyMatrix := do
  let rows ← (← arrIn j).mapM fun r => do (← arrIn r).mapM f32In
  let r := rows.length
  let c := (rows.head?.map List.length).getD 0
  if r < 1 ∨ r > 4 ∨ c < 1 ∨ c > 4 then refuse "matrix dimensions must be 1..4"
  else
    let vs ← rows.mapM fun row =>
      if h : row.length = c then pure (⟨⟨row.toArray, by simpa using h⟩⟩ : Vec c)
      else refuse "rows differ in length"
    if h : vs.length = r then pure ⟨r, c, ⟨⟨vs.toArray, by simpa using h⟩⟩⟩
    else refuse "rows differ in length"

/-- A matrix as answered, as a list of rows. -/
def matOut {r c : Nat} (m : Matrix r c) : Json := .arr (m.rows.toList.map vecOut)

/-- A `matrix` request. -/
def matrix (req : Json) (fn : String) : Reply Json := do
  let a : Reply AnyMatrix := do matIn (← need req "a")
  let p : Reply (Vec 3) := do vecIn 3 "p" (← need req "p")
  let i : Reply Nat := do natIn (← need req "i")
  match fn with
  | "mul" =>
    let ⟨r, k, ma⟩ ← a
    let ⟨k', c, mb⟩ ← matIn (← need req "b")
    if h : k' = k then return matOut (ma.mul (h ▸ mb)) else refuse "inner dimensions differ"
  | "transpose" => let ⟨_, _, m⟩ ← a; return matOut m.transpose
  | "row" | "index" => let ⟨_, _, m⟩ ← a; return vecOut (← ofPanic (m.row (← i)))
  | "column" => let ⟨_, _, m⟩ ← a; return vecOut (← ofPanic (m.column (← i)))
  | "eq" =>
    let ⟨r, c, ma⟩ ← a
    let ⟨r', c', mb⟩ ← matIn (← need req "b")
    if h : r' = r ∧ c' = c then
      have e : Matrix r' c' = Matrix r c := by rw [h.1, h.2]
      return .bool (ma.beq (cast e mb))
    else return .bool false
  | "zero" | "default" =>
    let r ← natIn (← need req "rows")
    let c ← natIn (← need req "cols")
    return matOut (Matrix.zero : Matrix r c)
  | "identity" => let n ← natIn (← need req "n"); return matOut (Matrix.identity : Matrix n n)
  | "origin" | "transform_point" =>
    let ⟨r, c, m⟩ ← a
    if h : r = 3 ∧ c = 4 then
      have e : Matrix r c = Matrix 3 4 := by rw [h.1, h.2]
      let m := cast e m
      if fn = "origin" then return vecOut m.origin else return vecOut (m.transformPoint (← p))
    else refuse "needs a 3x4 matrix"
  | "project" =>
    let ⟨r, c, m⟩ ← a
    if h : r = 4 ∧ c = 4 then
      have e : Matrix r c = Matrix 4 4 := by rw [h.1, h.2]
      let (x, y, w) := (cast e m).project (← p)
      return .arr [f32Out x, f32Out y, f32Out w]
    else refuse "needs a 4x4 matrix"
  | _ => refuse "unknown fn"


/-- A `qangle` request: pitch, yaw and roll angles. -/
def qangle (req : Json) (fn : String) : Reply Json := do
  let a : Reply Angles := do pure (Angles.ofVec (← vecIn 3 "a" (← need req "a")))
  let out (x : Angles) : Json := vecOut x.toVec
  match fn with
  | "to_vectors" =>
    let (f, r, u) := (← a).basis
    return .obj [("forward", vecOut f), ("right", vecOut r), ("up", vecOut u)]
  | "forward" => return vecOut (← a).forward
  | "from_vector" => return out (Angles.ofDirection (← vecIn 3 "v" (← need req "v")))
  | "normalized" => return out (← a).normalized
  | "normalize_angle" => return f32Out (wrapDegrees (← f32In (← need req "x")))
  | "eq" => return .bool ((← a).beq (Angles.ofVec (← vecIn 3 "b" (← need req "b"))))
  | "default" => return out Angles.zero
  | _ => refuse "unknown fn"

end EngineSdk.Api
