import EngineSdk.Api.Basic
import EngineSdk.Studio.Memory

/-!
# Requests on studio models

A request describes a model, which is laid out in memory as the engine lays it out, and asks a
list of queries about it, answered by reading that memory.  Fields that are not given are zero.
-/

namespace EngineSdk.Api

/-- A name of a bone, set or hitbox: null, or bytes without a NUL. -/
def studioNameIn (j : Json) : Reply CString :=
  match j with
  | .null => pure none
  | _ => do
    let bs ← bytesIn j
    if bs.contains 0 then refuse "NUL inside name" else pure (some bs)

/-- The claimed count of a list: the override when given, which may not pass the length. -/
def claimedIn {α : Type} (j : Json) (k : String) (xs : List α) : Reply Int := do
  match j.get? k with
  | none | some .null => pure xs.length
  | some n =>
    let n ← i32In k n
    if n > xs.length then refuse "count override larger than the list" else pure n

/-- A model as a request describes it. -/
def studioIn (j : Json) : Reply StudioModel := do
  let nameField ← optIn j "name" [] fun n => do
    let bs ← bytesIn n
    if bs.length > 64 ∨ bs.contains 0 then refuse "fixed string too long or has NUL" else pure bs
  let bones ← (← optIn j "bones" [] arrIn).mapM fun b => do
    pure (Bone.mk (← optIn b "name" none studioNameIn) (← optIn b "parent" 0 (i32In "parent"))
      (← optIn b "flags" 0 (i32In "flags")))
  let zero : Vec 3 := Vec.zero
  let sets ← (← optIn j "sets" [] arrIn).mapM fun s => do
    let boxes ← (← optIn s "hitboxes" [] arrIn).mapM fun h => do
      pure (Hitbox.mk (← optIn h "bone" 0 (i32In "bone")) (← optIn h "group" 0 (i32In "group"))
        (← optIn h "bbmin" zero (vecIn 3 "bbmin")) (← optIn h "bbmax" zero (vecIn 3 "bbmax"))
        (← optIn h "name" none studioNameIn))
    pure (HitboxSet.mk (← optIn s "name" none studioNameIn) (← claimedIn s "num_hitboxes" boxes) boxes)
  pure ⟨nameField, ← claimedIn j "num_bones" bones, bones, ← claimedIn j "num_sets" sets, sets⟩

/-- A name as answered: its text, or null. -/
def cnameOut (n : CString) : Json := optJson .str n.text?

/-- A bone as answered. -/
def boneJson (b : Bone) : Json :=
  .obj [("name", cnameOut b.name), ("parent", optJson (fun (p : Nat) => Json.int p) b.parent?),
    ("flags", Json.int b.flags)]

/-- A hitbox as answered. -/
def hitboxJson (h : Hitbox) : Json :=
  .obj [("bone", Json.int h.bone), ("group", Json.int h.group), ("center", vecOut h.center),
    ("name", cnameOut h.name)]

/-- A hitbox set as answered. -/
def hitboxSetJson (s : HitboxSet) : Json :=
  .obj [("name", cnameOut s.name), ("num_hitboxes", Json.int s.count)]

/-- One query about the model whose header is at address 0 of `m`. -/
def studioQuery (m : Memory) (q : Json) : Reply Json := do
  let i : Reply Nat := do natIn (← need q "i")
  let set : Reply Nat := do natIn (← need q "set")
  match ← strIn (← need q "q") with
  | "name" => pure (.str (StudioHdr.name m 0))
  | "bones" => pure (.arr ((StudioHdr.bones m 0).map fun a => boneJson (Bone.read m a)))
  | "bone" => pure (optJson (fun a => boneJson (Bone.read m a)) (StudioHdr.bone m 0 (← i)))
  | "bone_has_flag" =>
    let mask ← i32In "mask" (← need q "mask")
    pure (optJson (fun a => .bool ((Bone.read m a).hasFlag mask)) (StudioHdr.bone m 0 (← i)))
  | "set" => pure (optJson (fun a => hitboxSetJson (HitboxSet.read m a))
      (StudioHdr.hitboxSet m 0 (← i)))
  | "hitbox" => pure (optJson (fun a => hitboxJson (Hitbox.read m a))
      (StudioHdr.hitbox m 0 (← set) (← i)))
  | "hitboxes" => pure (optJson (fun a => .arr ((HitboxSet.read m a).hitboxes.map hitboxJson))
      (StudioHdr.hitboxSet m 0 (← set)))
  | _ => refuse "unknown studio query"

/-- A `studio` request: the answer to every query, in order. -/
def studioOp (req : Json) : Reply Json := do
  let m := (← studioIn req).layOut
  pure (.obj [("results", .arr ((← optIn req "queries" [] arrIn).map fun q =>
    match studioQuery m q with
    | .ok v => v
    | .error e => failJson e))])

end EngineSdk.Api
