import EngineSdk.Text.CString
import EngineSdk.Text.Debug
import EngineSdk.Decimal.Notation
import EngineSdk.Bytes.Layout

/-!
# Console variables

A console variable has a name, help text, a default and a current string, flags, float and
integer values and optional bounds.  An alias points at a parent variable, and every read and
every change of flags goes to the parent; a variable with no parent is its own.  Only one step
is taken: the parent's own parent is not followed.

Values are changed only through the variable's `IConVar` interface: a vtable whose slots hold the
setters for strings, floats and integers.  A setter is called on the variable itself, not on
its parent, and a missing vtable or slot means the value cannot be set.  What a setter does is
up to the engine; `SetterCall` records a call.
-/

namespace EngineSdk

/-! Flags of console variables. -/
namespace ConVarFlags

/-- Announced to players when changed. -/
def notify : Int := 1 <<< 8
/-- Never read as a string. -/
def neverAsString : Int := 1 <<< 12
/-- Copied from the server to clients. -/
def replicated : Int := 1 <<< 13
/-- Only changed with cheats on. -/
def cheat : Int := 1 <<< 14
/-- A client command may change it. -/
def clientCmdCanExecute : Int := 1 <<< 30

end ConVarFlags

/-- The layout of the base of commands and variables. -/
def conCommandBaseLayout : CStruct :=
  ⟨[("vtable", .ptr), ("next", .ptr), ("registered", .byte), ("name", .ptr),
    ("help_string", .ptr), ("flags", .i32)]⟩

/-- The layout of a variable: the base, the vtable of its `IConVar` interface, and its values. -/
def conVarLayout : CStruct :=
  ⟨[("base", conCommandBaseLayout.type), ("iconvar_vtable", .ptr), ("parent", .ptr),
    ("default_value", .ptr), ("string", .ptr), ("string_length", .i32), ("float_value", .f32),
    ("int_value", .i32), ("has_min", .byte), ("min_value", .f32), ("has_max", .byte),
    ("max_value", .f32), ("change_callback", .ptr)]⟩

/-- The byte offset of the `IConVar` interface within a variable: where its vtable lies. -/
def iconvarOffset : Nat := conVarLayout.offsetOf "iconvar_vtable"

/-- The setters of the `IConVar` interface. -/
inductive Setter where
  | string
  | float
  | int
deriving DecidableEq, Repr

namespace Setter

/-- The name a setter is recorded under. -/
def label : Setter → String
  | .string => "string"
  | .float => "float"
  | .int => "int"

/-- The gamedata key of a setter's slot. -/
def key : Setter → String
  | .string => "IConVar::SetValue_String"
  | .float => "IConVar::SetValue_Float"
  | .int => "IConVar::SetValue_Int"

/-- The slot of a setter when gamedata does not say otherwise. -/
def defaultSlot : Setter → Nat
  | .string => 0
  | .float => 1
  | .int => 2

/-- The setter held by a slot of the vtable. -/
def ofSlot? : Nat → Option Setter
  | 0 => some .string
  | 1 => some .float
  | 2 => some .int
  | _ => none

end Setter

/-- A value handed to a setter. -/
inductive SetValue where
  | string (s : String)
  | float (x : Float32)
  | int (v : Int)

/-- A setter call: the setter that ran, the variable it was called on and the value. -/
structure SetterCall where
  setter : Setter
  var : Nat
  value : SetValue

/-- A console variable. -/
structure ConVar where
  name : CString
  help : CString
  string : CString
  default : CString
  flags : Int
  float : Float32
  int : Int
  hasMin : Bool
  min : Float32
  hasMax : Bool
  max : Float32
  /-- The parent, by index among the variables; none for the variable itself. -/
  parent : Option Nat
  /-- The setter slots of the `IConVar` vtable, present or not; none for a null vtable. -/
  vtable : Option (List Bool)

/-- The console variables, by index. -/
structure ConVarTable where
  vars : List ConVar

/-- A text read from a C string: empty when null or not UTF-8. -/
def textOrEmpty (s : CString) : String := s.text?.getD ""

/-- A 32-bit flag word in hexadecimal, negative words as their two's complement. -/
def flagWordHex (v : Int) : String :=
  let n := if v < 0 then (v + (Nat.pow 2 32 : Int)).toNat else v.toNat
  String.ofList (Nat.toDigits 16 n)

namespace ConVarTable

/-- The variable at an index. -/
def get? (t : ConVarTable) (i : Nat) : Option ConVar := t.vars[i]?

/-- The variable whose values an index reads: its parent, or itself. -/
def owner (t : ConVarTable) (i : Nat) : Nat := ((t.get? i).bind (·.parent)).getD i

/-- Reads a property of the owner of `i`. -/
def ownerValue {α : Type} (t : ConVarTable) (i : Nat) (f : ConVar → α) (d : α) : α :=
  ((t.get? (t.owner i)).map f).getD d

/-- The name of the variable itself, when it is text. -/
def rawName (t : ConVarTable) (i : Nat) : Option String := (t.get? i).bind (·.name.text?)

/-- The name of the variable itself, empty when it is not text. -/
def name (t : ConVarTable) (i : Nat) : String := (t.rawName i).getD ""

/-- The help text. -/
def helpText (t : ConVarTable) (i : Nat) : String := t.ownerValue i (textOrEmpty ·.help) ""

/-- The default value. -/
def defaultValue (t : ConVarTable) (i : Nat) : String := t.ownerValue i (textOrEmpty ·.default) ""

/-- The flags. -/
def flags (t : ConVarTable) (i : Nat) : Int := t.ownerValue i (·.flags) 0

/-- Some bit of `flag` is set, as 32-bit words. -/
def isFlagSet (t : ConVarTable) (i : Nat) (flag : Int) : Bool :=
  (t.flags i).toInt32 &&& flag.toInt32 != 0

/-- The current value as a string; a variable flagged never-as-string says so instead. -/
def getString (t : ConVarTable) (i : Nat) : String :=
  if t.isFlagSet i ConVarFlags.neverAsString then "FCVAR_NEVER_AS_STRING"
  else t.ownerValue i (textOrEmpty ·.string) ""

/-- The float value. -/
def getFloat (t : ConVarTable) (i : Nat) : Float32 := t.ownerValue i (·.float) 0

/-- The integer value. -/
def getInt (t : ConVarTable) (i : Nat) : Int := t.ownerValue i (·.int) 0

/-- The integer value is not zero. -/
def getBool (t : ConVarTable) (i : Nat) : Bool := t.getInt i != 0

/-- The lower bound, when there is one. -/
def min? (t : ConVarTable) (i : Nat) : Option Float32 :=
  t.ownerValue i (fun v => if v.hasMin then some v.min else none) none

/-- The upper bound, when there is one. -/
def max? (t : ConVarTable) (i : Nat) : Option Float32 :=
  t.ownerValue i (fun v => if v.hasMax then some v.max else none) none

/-- The table with the flags of the owner of `i` changed by `f`. -/
def modifyFlags (t : ConVarTable) (i : Nat) (f : Int → Int) : ConVarTable :=
  let o := t.owner i
  ⟨t.vars.modify o fun v => { v with flags := f v.flags }⟩

/-- Sets the bits of `mask` in the owner's flags. -/
def addFlags (t : ConVarTable) (i : Nat) (mask : Int) : ConVarTable :=
  t.modifyFlags i fun f => (f.toInt32 ||| mask.toInt32).toInt

/-- Clears the bits of `mask` in the owner's flags. -/
def removeFlags (t : ConVarTable) (i : Nat) (mask : Int) : ConVarTable :=
  t.modifyFlags i fun f => (f.toInt32 &&& ~~~mask.toInt32).toInt

/-- `name = value`. -/
def display (t : ConVarTable) (i : Nat) : String := t.name i ++ " = " ++ t.getString i

/-- The variable as a diagnostic shows it: its quoted name, its flags in hexadecimal and its
quoted value. -/
def describe (t : ConVarTable) (i : Nat) : String :=
  "ConVar \x7b name: " ++ Text.debugQuote (t.name i) ++ ", flags: 0x" ++ flagWordHex (t.flags i) ++
    ", value: " ++ Text.debugQuote (t.getString i) ++ " \x7d"

/-- The setter a call through slot `slot` of the variable's own vtable reaches, if any. -/
def setterAt (t : ConVarTable) (i : Nat) (slot : Nat) : Option Setter :=
  match (t.get? i).bind (·.vtable) with
  | none => none
  | some slots => if slots.getD slot false then Setter.ofSlot? slot else none

/-- Calls a setter of the variable itself through `slot`: the call made, or none when the
vtable or the slot is missing. -/
def callSetter (t : ConVarTable) (i : Nat) (slot : Nat) (value : SetValue) : Option SetterCall :=
  (t.setterAt i slot).map fun s => ⟨s, i, value⟩

/-- Sets the value from a string; a string holding a NUL cannot be passed. -/
def setString (t : ConVarTable) (i : Nat) (slot : Nat) (s : String) : Option SetterCall :=
  if s.toList.contains (Char.ofNat 0) then none else t.callSetter i slot (.string s)

end ConVarTable

end EngineSdk
