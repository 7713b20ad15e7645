import EngineSdk.Api.Basic
import EngineSdk.Netvar.Field
import EngineSdk.Entity.Netvars

/-!
# Requests on networked tables

A request describes the client's receive tables and classes and runs a list of steps on them;
the offset cache lives across the steps of one request.  There is no engine, so the lookups that
go through it find no class list.
-/

namespace EngineSdk.Api

open Netvar

/-- A reference to a table of an arena of `count` tables. -/
def tableRefIn (count : Nat) (j : Json) : Reply (Option Nat) :=
  match j with
  | .null => pure none
  | _ => do
    let i ← natIn j
    if i < count then pure (some i) else refuse "table index out of range"

/-- A property type: a code, or the name of a known type. -/
def propCodeIn (j : Json) : Reply Int :=
  match j with
  | .str s =>
    match (Coded.all : List PropKind).find? (Coded.label · == s) with
    | some k => pure (Coded.code k)
    | none => refuse "unknown prop type"
  | _ => i32In "type" j

/-- A property of an arena of `count` tables. -/
def propIn (count : Nat) (j : Json) : Reply Property := do
  pure ⟨← cstrIn (← need j "name"), ← propCodeIn (← need j "type"),
    ← i32In "offset" (← need j "offset"), ← optIn j "table" none (tableRefIn count)⟩

/-- The first `n` elements, where `n` may be given to override the length: a negative
override leaves none, and one past the length is refused. -/
def truncatedIn {α : Type} (j : Json) (k : String) (xs : List α) : Reply (List α) := do
  match j.get? k with
  | none | some .null => pure xs
  | some n =>
    let n ← intIn n
    if n < 0 then pure []
    else if n.toNat > xs.length then refuse "count override larger than the list"
    else pure (xs.take n.toNat)

/-- The tables and classes of a client. -/
def registryIn (j : Json) : Reply Registry := do
  let tables ← optIn j "tables" [] arrIn
  let count := tables.length
  let tables ← tables.mapM fun t => do
    let props ← (← optIn t "props" [] arrIn).mapM (propIn count)
    pure (Table.mk (← optIn t "name" none cstrIn) (← truncatedIn t "num_props" props))
  let classes ← (← optIn j "classes" [] arrIn).mapM fun c => do
    pure (ClientClass.mk (← optIn c "name" none cstrIn) (← optIn c "table" none (tableRefIn count))
      (← optIn c "id" 0 (i32In "id")))
  pure ⟨⟨tables⟩, classes⟩

/-- A found property: its offset and type. -/
def propOffsetJson (o : PropOffset) : Json :=
  .obj [("offset", Json.int o.offset), ("type", optJson (fun k => .str (Coded.label k)) o.kind)]

/-- A lookup result. -/
def lookupJson (r : Except RecvPropError PropOffset) : Json :=
  match r with
  | .ok o => propOffsetJson o
  | .error e => errorJson e.kind e.message

/-- Runs a lookup on the cache; a stop becomes the step's refusal, keeping what was stored. -/
def runLookup {α : Type} (l : Lookup α) (c : OffsetCache) : Reply α × OffsetCache :=
  match (l.run).run c with
  | (.ok a, c) => (.ok a, c)
  | (.error p, c) => (aborted p, c)

/-- The pairs of a prefetch step. -/
def pairsIn (j : Json) : Reply (List (String × String)) := do
  (← arrIn j).mapM fun p => do
    match ← arrIn p with
    | [t, q] => pure (← strIn t, ← strIn q)
    | _ => refuse "a pair is [table, prop]"

/-- The `field` step: a fresh field, its offset, and reads and writes through it on entity
memory. -/
def fieldStep (head : Except RecvPropError Registry) (step : Json) : Lookup (Reply Json) := do
  let spec : Reply (Field × Option (List UInt8) × Option Int) := do
    let table ← strIn (← need step "table")
    let prop ← strIn (← need step "prop")
    let f ← match step.get? "with_offset" with
      | some o => do pure (Field.withOffset table prop (← i32In "with_offset" o))
      | none => pure (Field.new table prop)
    let entity ← optIn step "entity" none fun e => do pure (some (← hexIn e))
    let value ← optIn step "set" none fun v => do pure (some (← i32In "set" v))
    pure (f, entity, value)
  match spec with
  | .error e => pure (.error e)
  | .ok (f, entity, value) =>
  let before := f.isResolved
  let (tryOff, f) ← f.tryOffset head
  let mut out : List (String × Json) := [("table", .str f.table), ("prop", .str f.prop),
    ("resolved_before", .bool before), ("try_offset", optJson Json.int tryOff)]
  let mut f := f
  if flagIn step "offset_unchecked" then
    let (o, f') ← f.offset head
    f := f'
    out := out ++ [("offset", Json.int o)]
  match entity with
  | none => pure (.ok (.obj (out ++ [("resolved_after", .bool f.isResolved)])))
  | some block =>
  if let some o := tryOff then
    if o < 0 ∨ o + 4 > block.length then return refuse "field outside entity bytes"
  let target := if flagIn step "null_entity" then none else some block
  let (got, f') ← f.tryGet head Cell.i32 target
  f := f'
  out := out ++ [("try_get", optJson Json.int got)]
  let mut block := block
  if flagIn step "unchecked" then
    let (v, f') ← f.get head Cell.i32 block
    f := f'
    out := out ++ [("get", Json.int v)]
    if let some v := value then
      let (b, f') ← f.set head Cell.i32 block v
      let (cur, f'') ← f'.get head Cell.i32 b
      let next ← ExceptT.mk (pure (Panic.addSigned 32 cur 1))
      let (b, f''') ← f''.set head Cell.i32 b next
      f := f'''
      block := b
      out := out ++ [("get_after_set_and_increment", Json.int next)]
  if let some v := value then
    let target := if flagIn step "null_entity" then none else some block
    let (written, f') ← f.trySet head Cell.i32 target v
    f := f'
    if let some b := written then block := b
    let target := if flagIn step "null_entity" then none else some block
    let (after, f') ← f.tryGet head Cell.i32 target
    f := f'
    out := out ++ [("try_set", .bool written.isSome), ("try_get_after", optJson Json.int after)]
  pure (.ok (.obj (out ++ [("resolved_after", .bool f.isResolved), ("entity", hexOut block)])))

/-- Continues a step with a read argument, or ends it with the refusal. -/
def withArg {α : Type} (x : Reply α) (k : α → Lookup (Reply Json)) : Lookup (Reply Json) :=
  match x with
  | .ok a => k a
  | .error e => pure (.error e)

/-- Ends a step with a value. -/
def answered (j : Json) : Lookup (Reply Json) := pure (.ok j)

/-- Ends a step with a reply. -/
def replied (r : Reply Json) : Lookup (Reply Json) := pure r

/-- One step of a `recvprop` request. -/
def netStep (r : Registry) (step : Json) : Lookup (Reply Json) :=
  let head : Except RecvPropError Registry := .error .notInitialized
  let here := if flagIn step "null_head" then { r with classes := [] } else r
  let str (k : String) : Reply String := do strIn (← need step k)
  let table : Reply (Option Nat) := do tableRefIn r.arena.tables.length (← need step "table")
  let op : String := match step.get? "op" with
    | some (.str o) => o
    | some _ => "?"
    | none => ""
  match op with
  | "find_table" => withArg (str "name") fun n =>
    answered ((optJson (fun (i : Nat) => Json.int i) (here.findTable n)))
  | "find_in_table" => withArg table fun t => withArg (str "prop") fun p =>
    replied ((ofPanic (r.arena.findProp t p.toUTF8.toList)).map (optJson propOffsetJson))
  | "get_offset_from" => withArg (str "table") fun t => withArg (str "prop") fun p => do
    answered ((lookupJson (← here.offsetOf t p)))
  | "get_offset" => withArg (str "table") fun t => withArg (str "prop") fun p => do
    answered ((lookupJson (← offsetVia head t p)))
  | "prefetch_from" => withArg (do pairsIn (← need step "pairs")) fun ps => do
    answered ((.arr ((← here.prefetch ps).map lookupJson)))
  | "prefetch" => withArg (do pairsIn (← need step "pairs")) fun ps => do
    answered ((.arr ((← prefetchVia head ps).map lookupJson)))
  | "dump" => withArg table fun t =>
    replied ((ofPanic (r.arena.dump t)).map fun ls => .arr (ls.map .str))
  | "dump_table" => withArg (str "table") fun t =>
    replied ((ofPanic (dumpVia head t)).map fun
      | .ok ls => .arr (ls.map .str)
      | .error e => errorJson e.kind e.message)
  | "clear_cache" => do set OffsetCache.empty; answered (.null)
  | "cache_size" => do answered ((Json.int (← get).size))
  | "prefetch_netvars" => do
    answered ((Json.int (← Entity.prefetchKnown head)))
  | "resolve_slot" => withArg (str "table") fun t => withArg (str "prop") fun p =>
    withArg (optIn step "preset" none fun v => do pure (some (← i32In "preset" v))) fun preset => do
      let (res, slot) ← resolveSlot head t p preset
      answered ((.obj [("result", match res with
          | .ok o => Json.int o
          | .error e => errorJson e.kind e.message),
        ("slot", optJson Json.int slot)]))
  | "field" => fieldStep head step
  | "" => replied (refuse "step without op")
  | _ => replied (refuse "unknown recvprop op")

/-- A `recvprop` request: every step's answer, in order. -/
def recvpropOp (req : Json) : Reply Json := do
  let r ← registryIn req
  let steps ← arrIn (← need req "ops")
  let (answers, _) := steps.foldl (fun (acc, c) step =>
      let (res, c) := runLookup (netStep r step) c
      let j := match res with
        | .ok (.ok v) => v
        | .ok (.error e) => failJson e
        | .error e => failJson e
      (acc ++ [j], c)) ([], OffsetCache.empty)
  pure (.obj [("steps", .arr answers)])

end EngineSdk.Api
