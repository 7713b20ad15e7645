import EngineSdk.Api.Basic
import EngineSdk.Entity.List

/-!
# Requests on the entity list

A request describes a stand-in entity list: slots that hold an entity or not, each with a
serial number, the highest index it reports, and vtable entries it leaves out.  The entity in a
slot is named by the slot's index.  There is no engine, so the lookups that go through it find
nothing.
-/

namespace EngineSdk.Api

/-- The stand-in list: slot `i` holds entity `i` when present; a handle names the entity in its
slot when its serial matches the slot's. -/
def standInList (slots : List (Bool × Nat)) (highest : Int) (missing : List Nat) : EntityList Nat :=
  let present (i : Int) : Option Nat :=
    if i < 0 then none
    else match slots[i.toNat]? with
      | some (true, _) => some i.toNat
      | _ => none
  let kept {α : Type} (slot : Nat) (m : α) : Option α := if missing.contains slot then none else some m
  { EntityList.blank with
    entity := kept 3 present
    fromHandle := kept 4 fun raw =>
      let h : EntityHandle := ⟨raw⟩
      match slots[h.index.toNat]? with
      | some (true, serial) => if h.serial.toNat == serial then some h.index.toNat else none
      | _ => none
    highest := kept 6 highest }

/-- One step on the list. -/
def entityListStep (l : EntityList Nat) (step : Json) : Reply Json := do
  let index : Reply Int := do i32In "index" (← need step "index")
  let raw : Reply UInt32 := do u32In (← need step "raw")
  let slot (e : Option Nat) : Json := optJson (fun (n : Nat) => Json.int n) e
  let none' : EntityList Nat := EntityList.blank
  match ← strIn (← need step "op") with
  | "get" => pure (slot (l.get (← index)))
  | "from_handle" => pure (slot (l.ofHandle ⟨← raw⟩))
  | "highest" => pure (Json.int l.highestIndex)
  | "iter" => do
    let found ← ofPanic l.walked
    pure (.arr (found.map fun (i, e) => .arr [Json.int i, Json.int e]))
  | "iter_empty" | "global_iter" => pure (Json.int none'.entries.length)
  | "global_get" => pure (.bool (none'.get (← index)).isSome)
  | "global_from_handle" => pure (.bool (none'.ofHandle ⟨← raw⟩).isSome)
  | "global_networkable" => pure (.bool (none'.getNetworkable (← index)).isSome)
  | "global_highest" => pure (Json.int none'.highestIndex)
  | "global_max" => pure (Json.int none'.maxEntities)
  | "global_count" =>
    pure (Json.int (none'.number (← optIn step "include_non_networkable" false boolIn)))
  | _ => refuse "unknown entity list op"

/-- The highest index a stand-in list may report: every index up to it is walked. -/
def highestLimit : Int := 5000

/-- An `entity_list` request; a list that reports an index past `highestLimit` is refused. -/
def entityListOp (req : Json) : Reply Json := do
  let slots ← (← optIn req "slots" [] arrIn).mapM fun s => do
    pure (← optIn s "present" true boolIn, ← optIn s "serial" 1 natIn)
  let highest ← optIn req "highest" ((slots.length : Int) - 1) (i32In "highest")
  if highest > highestLimit then refuse "highest too big" else
  let missing ← (← optIn req "missing_slots" [] arrIn).mapM natIn
  let l := if flagIn req "null_list" ∨ flagIn req "null_vtable" then EntityList.blank
    else standInList slots highest missing
  pure (.obj [("steps", .arr ((← optIn req "ops" [] arrIn).map fun step =>
    match entityListStep l step with
    | .ok v => v
    | .error e => failJson e))])

end EngineSdk.Api
