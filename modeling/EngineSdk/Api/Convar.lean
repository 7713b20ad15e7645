import EngineSdk.Api.Basic
import EngineSdk.Convar.Basic

/-!
# Requests on console variables

A request describes console variables and runs steps on one of them.  Every setter slot of a
described variable records its call and changes nothing.  There is no engine, so no variable can
be found by name.
-/

namespace EngineSdk.Api

/-- The console variables of a request, `count` of them. -/
def conVarIn (count : Nat) (j : Json) : Reply ConVar := do
  let parent ← match j.get? "parent" with
    | none | some (.str "self") | some .null => pure none
    | some p => do
      let i ← natIn p
      if i < count then pure (some i) else refuse "parent index out of range"
  let slots ← optIn j "slots" [true, true, true] fun s => do (← arrIn s).mapM boolIn
  let vtable := if (← optIn j "vtable" true boolIn) then some slots else none
  pure ⟨← optIn j "name" none cstrIn, ← optIn j "help" none cstrIn,
    ← optIn j "string" none cstrIn, ← optIn j "default" none cstrIn,
    ← optIn j "flags" 0 (i32In "flags"), ← optIn j "float" 0 f32In, ← optIn j "int" 0 (i32In "int"),
    ← optIn j "has_min" false boolIn, ← optIn j "min" 0 f32In,
    ← optIn j "has_max" false boolIn, ← optIn j "max" 0 f32In, parent, vtable⟩

/-- A variable table of a request. -/
def conVarTableIn (j : Json) : Reply ConVarTable := do
  let vars ← optIn j "vars" [] arrIn
  pure ⟨← vars.mapM (conVarIn vars.length)⟩

/-- A setter call as answered. -/
def setterCallJson (c : SetterCall) : Json :=
  .obj [("slot", .str c.setter.label), ("var", Json.int c.var), ("value", match c.value with
    | .string s => .str s
    | .float x => f32Out x
    | .int v => Json.int v)]

/-- The final values of every variable. -/
def conVarsJson (t : ConVarTable) : Json :=
  .arr (t.vars.map fun v => .obj [("flags", Json.int v.flags), ("float", f32Out v.float),
    ("int", Json.int v.int)])

/-- A call `fn` on variable `i`, with the setters in the slots `slot` gives: its value, the
setter calls made and the table afterwards. -/
def conVarCall (t : ConVarTable) (i : Nat) (slot : Setter → Nat) (fn : String) (step : Json) :
    Reply (Json × List SetterCall × ConVarTable) := do
  let same (j : Json) : Reply (Json × List SetterCall × ConVarTable) := pure (j, [], t)
  let set (call : Option SetterCall) : Reply (Json × List SetterCall × ConVarTable) :=
    pure (.bool call.isSome, call.toList, t)
  let value : Reply Json := need step "value"
  match fn with
  | "name" => same (.str (t.name i))
  | "raw_name" => same (optJson .str (t.rawName i))
  | "help_text" => same (.str (t.helpText i))
  | "default_value" => same (.str (t.defaultValue i))
  | "get_string" => same (.str (t.getString i))
  | "flags" => same (Json.int (t.flags i))
  | "is_flag_set" => same (.bool (t.isFlagSet i (← i32In "flag" (← need step "flag"))))
  | "add_flags" => pure (.null, [], t.addFlags i (← i32In "flags" (← need step "flags")))
  | "remove_flags" => pure (.null, [], t.removeFlags i (← i32In "flags" (← need step "flags")))
  | "get_float" => same (f32Out (t.getFloat i))
  | "get_int" => same (Json.int (t.getInt i))
  | "get_bool" => same (.bool (t.getBool i))
  | "min" => same (optJson f32Out (t.min? i))
  | "max" => same (optJson f32Out (t.max? i))
  | "display" => same (.str (t.display i))
  | "debug" => same (.str (t.describe i))
  | "set_string" => set (t.setString i (slot .string) (← strIn (← value)))
  | "set_float" => set (t.callSetter i (slot .float) (.float (← f32In (← value))))
  | "set_int" => set (t.callSetter i (slot .int) (.int (← i32In "value" (← value))))
  | "set_bool" =>
    set (t.callSetter i (slot .int) (.int (if ← boolIn (← value) then 1 else 0)))
  | "from_null" | "find" => same (.bool false)
  | _ => refuse "unknown convar op"

/-- A `convar` request: every step's value and setter calls, and the final variables. -/
def convarOp (req : Json) : Reply Json := do
  let t ← conVarTableIn req
  let target ← optIn req "target" 0 natIn
  let (steps, t) := (← optIn req "ops" [] arrIn).foldl (fun (acc, t) step =>
      let r : Reply (Json × List SetterCall × ConVarTable) := do
        let i ← optIn step "var" target natIn
        if i < t.vars.length then conVarCall t i Setter.defaultSlot (← strIn (← need step "op")) step
        else refuse "var index out of range"
      match r with
      | .ok (v, calls, t') =>
        (acc ++ [Json.obj [("result", v), ("calls", .arr (calls.map setterCallJson))]], t')
      | .error e => (acc ++ [Json.obj [("result", failJson e), ("calls", .arr [])]], t))
    ([], t)
  pure (.obj [("steps", .arr steps), ("vars", conVarsJson t)])

end EngineSdk.Api
