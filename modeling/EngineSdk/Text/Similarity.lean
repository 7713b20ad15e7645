/-!
# Similarity of names

The Jaro–Winkler similarity of two texts, by characters, in floating point: the Jaro
similarity `(m / |a| + m / |b| + (m - t) / m) / 3`, where `m` counts the characters of `a`
matched to an equal, not yet matched character of `b` at most `max(|a|, |b|) / 2 - 1` places
away (the first such one), and `t` is half the number of matched pairs that differ when the
matched characters of both are read in order; then, above `0.7`, the bonus
`0.1 * p * (1 - sim)` for a common prefix of `p ≤ 4` characters.  Two empty texts are equal
(`1.0`); an empty and a non-empty one share nothing (`0.0`).

A misspelt name is answered with the closest known one whose similarity exceeds `0.8`.
-/

namespace EngineSdk.Similarity

/-- The index of the first character of `b`, from `lo` to before `hi`, equal to `c` and not
yet taken. -/
def firstFree (b : Array Char) (taken : Array Bool) (c : Char) (lo hi : Nat) : Option Nat :=
  (List.range' lo (hi - lo)).find? fun j => b[j]? == some c && taken[j]? == some false

/-- Matches the characters of `a` from index `i` on; which of `a` and of `b` are matched. -/
def matchFrom (a b : Array Char) (range : Nat) :
    List (Nat × Char) → Array Bool → Array Bool → Array Bool × Array Bool
  | [], fa, fb => (fa, fb)
  | (i, c) :: rest, fa, fb =>
    let lo := if i > range then i - range else 0
    let hi := min b.size (i + range + 1)
    match firstFree b fb c lo hi with
    | some j => matchFrom a b range rest (fa.setIfInBounds i true) (fb.setIfInBounds j true)
    | none => matchFrom a b range rest fa fb

/-- The Jaro similarity of two texts. -/
def jaro (a b : String) : Float :=
  let ca := a.toList.toArray
  let cb := b.toList.toArray
  if ca.size == 0 && cb.size == 0 then 1.0
  else if ca.size == 0 || cb.size == 0 then 0.0
  else
    let range := max ca.size cb.size / 2 - 1
    let (fa, fb) := matchFrom ca cb range (ca.toList.zipIdx.map fun (c, i) => (i, c))
      (Array.replicate ca.size false) (Array.replicate cb.size false)
    let ma := (ca.toList.zip fa.toList).filterMap fun (c, f) => if f then some c else none
    let mb := (cb.toList.zip fb.toList).filterMap fun (c, f) => if f then some c else none
    let m := ma.length
    if m == 0 then 0.0
    else
      let t := ((ma.zip mb).filter fun (x, y) => x != y).length / 2
      let mf := m.toFloat
      (mf / ca.size.toFloat + mf / cb.size.toFloat + (m - t).toFloat / mf) / 3.0

/-- The Jaro–Winkler similarity of two texts. -/
def jaroWinkler (a b : String) : Float :=
  let sim := jaro a b
  if sim > 0.7 then
    let p := ((a.toList.take 4).zip b.toList |>.takeWhile fun (x, y) => x == y).length
    sim + 0.1 * p.toFloat * (1.0 - sim)
  else sim

/-- The known name most like `name`, when one is like it by more than `0.8`; the first of
equally like ones. -/
def suggest (name : String) (known : List String) : Option String :=
  let best := known.foldl (fun (acc : Option (Float × String)) k =>
    let c := jaroWinkler name k
    if c > 0.8 then
      match acc with
      | some (b, _) => if b < c then some (c, k) else acc
      | none => some (c, k)
    else acc) none
  best.map Prod.snd

end EngineSdk.Similarity
