import EngineSdk.StandIn.Calls
import EngineSdk.Host.Module

/-!
# The stand-in modules

The process can load ten small modules standing in for the engine's libraries.  Each exports
`CreateInterface`, which forwards to the host's factory once the host has registered one with
`oracle_register`, and `oracle_bone_cache`, a function that returns the word at byte `0x40` of
its argument, calling a helper at `+0x1e` that returns its argument.

Signatures are searched in a module's executable segment, which starts `0x1000` bytes above its
base and holds, in order: the runtime's `_init`; the lazy-binding stub table, whose one entry at
`+0x1030` reaches `__cxa_finalize`; the runtime's start-up and tear-down routines from `+0x1040`;
`oracle_register` at `+0x10f9`; `CreateInterface` at `+0x110f`; `oracle_bone_cache` at `+0x1163`
with its helper; and the runtime's `_fini`.  Every module's segment holds the same bytes.

A code address is named after the module's file and the exported function it lies in,
`client.so:oracle_bone_cache+0x1e`; an address of the module outside the exported functions by
its offset from the base, `client.so+0x1016`; and any other address is `unknown`.
-/

namespace EngineSdk.StandIn

/-- The stand-in modules, in the order they are loaded by default. -/
def moduleNames : List String :=
  ["engine", "client", "vstdlib", "materialsystem", "studiorender", "vphysics", "inputsystem",
    "vgui2", "vguimatsurface", "server"]

/-- The runtime's `_init`: it calls the profiler's start-up hook when one is linked. -/
def initCode : List UInt8 :=
  [0x48, 0x83, 0xEC, 0x08, 0x48, 0x8B, 0x05, 0xD5, 0x2F, 0x00, 0x00, 0x48, 0x85, 0xC0, 0x74,
    0x02, 0xFF, 0xD0, 0x48, 0x83, 0xC4, 0x08, 0xC3]

/-- The lazy-binding stub table: the resolver entry, then the stub of `__cxa_finalize`. -/
def stubCode : List UInt8 :=
  [0xFF, 0x35, 0xE2, 0x2F, 0x00, 0x00, 0xFF, 0x25, 0xE4, 0x2F, 0x00, 0x00, 0x0F, 0x1F, 0x40,
    0x00,
    0xFF, 0x25, 0xE2, 0x2F, 0x00, 0x00, 0x68, 0x00, 0x00, 0x00, 0x00, 0xE9, 0xE0, 0xFF, 0xFF,
    0xFF]

/-- The runtime's routines that register and deregister transactional clone tables, run the
destructors at unload, and the registration at load, each aligned to 16 bytes. -/
def runtimeCode : List UInt8 :=
  -- deregister_tm_clones
  [0x48, 0x8D, 0x3D, 0xE1, 0x2F, 0x00, 0x00, 0x48, 0x8D, 0x05, 0xDA, 0x2F, 0x00, 0x00, 0x48,
    0x39, 0xF8, 0x74, 0x15, 0x48, 0x8B, 0x05, 0x7E, 0x2F, 0x00, 0x00, 0x48, 0x85, 0xC0, 0x74,
    0x09, 0xFF, 0xE0, 0x0F, 0x1F, 0x80, 0x00, 0x00, 0x00, 0x00, 0xC3, 0x0F, 0x1F, 0x80, 0x00,
    0x00, 0x00, 0x00] ++
  -- register_tm_clones
  [0x48, 0x8D, 0x3D, 0xB1, 0x2F, 0x00, 0x00, 0x48, 0x8D, 0x35, 0xAA, 0x2F, 0x00, 0x00, 0x48,
    0x29, 0xFE, 0x48, 0x89, 0xF0, 0x48, 0xC1, 0xEE, 0x3F, 0x48, 0xC1, 0xF8, 0x03, 0x48, 0x01,
    0xC6, 0x48, 0xD1, 0xFE, 0x74, 0x14, 0x48, 0x8B, 0x05, 0x4D, 0x2F, 0x00, 0x00, 0x48, 0x85,
    0xC0, 0x74, 0x08, 0xFF, 0xE0, 0x66, 0x0F, 0x1F, 0x44, 0x00, 0x00, 0xC3, 0x0F, 0x1F, 0x80,
    0x00, 0x00, 0x00, 0x00] ++
  -- __do_global_dtors_aux
  [0xF3, 0x0F, 0x1E, 0xFA, 0x80, 0x3D, 0x6D, 0x2F, 0x00, 0x00, 0x00, 0x75, 0x2B, 0x55, 0x48,
    0x83, 0x3D, 0x2A, 0x2F, 0x00, 0x00, 0x00, 0x48, 0x89, 0xE5, 0x74, 0x0C, 0x48, 0x8B, 0x3D,
    0x4E, 0x2F, 0x00, 0x00, 0xE8, 0x59, 0xFF, 0xFF, 0xFF, 0xE8, 0x64, 0xFF, 0xFF, 0xFF, 0xC6,
    0x05, 0x45, 0x2F, 0x00, 0x00, 0x01, 0x5D, 0xC3, 0x0F, 0x1F, 0x00, 0xC3, 0x0F, 0x1F, 0x80,
    0x00, 0x00, 0x00, 0x00] ++
  -- frame_dummy
  [0xF3, 0x0F, 0x1E, 0xFA, 0xE9, 0x77, 0xFF, 0xFF, 0xFF]

/-- `oracle_register`: keeps the factory it is given. -/
def registerCode : List UInt8 :=
  [0x55, 0x48, 0x89, 0xE5, 0x48, 0x89, 0x7D, 0xF8, 0x48, 0x8B, 0x45, 0xF8, 0x48, 0x89, 0x05,
    0x24, 0x2F, 0x00, 0x00, 0x90, 0x5D, 0xC3]

/-- `CreateInterface`: calls the kept factory with the module's name, the version and the
code pointer; without a factory it writes `1` through the code pointer, when that is not null,
and returns null. -/
def createInterfaceCode : List UInt8 :=
  [0x55, 0x48, 0x89, 0xE5, 0x48, 0x83, 0xEC, 0x10, 0x48, 0x89, 0x7D, 0xF8, 0x48, 0x89, 0x75,
    0xF0, 0x48, 0x8B, 0x05, 0x0A, 0x2F, 0x00, 0x00, 0x48, 0x85, 0xC0, 0x74, 0x20, 0x48, 0x8B,
    0x0D, 0xFE, 0x2E, 0x00, 0x00, 0x48, 0x8B, 0x55, 0xF0, 0x48, 0x8B, 0x45, 0xF8, 0x48, 0x89,
    0xC6, 0x48, 0x8D, 0x05, 0xBC, 0x0E, 0x00, 0x00, 0x48, 0x89, 0xC7, 0xFF, 0xD1, 0xEB, 0x16,
    0x48, 0x83, 0x7D, 0xF0, 0x00, 0x74, 0x0A, 0x48, 0x8B, 0x45, 0xF0, 0xC7, 0x00, 0x01, 0x00,
    0x00, 0x00, 0xB8, 0x00, 0x00, 0x00, 0x00, 0xC9, 0xC3]

/-- The code of `oracle_bone_cache` before its helper. -/
def boneCacheCode : List UInt8 :=
  [0x55, 0x48, 0x89, 0xE5, 0x41, 0x54, 0x53, 0x48, 0x89, 0xFB, 0x48, 0x8B, 0xBF, 0x40, 0x00,
    0x00, 0x00, 0xE8, 0x08, 0x00, 0x00, 0x00, 0x48, 0x85, 0xC0, 0x5B, 0x41, 0x5C, 0x5D, 0xC3]

/-- The helper `oracle_bone_cache` calls, which returns its argument. -/
def helperCode : List UInt8 := [0x48, 0x89, 0xF8, 0xC3]

/-- The runtime's `_fini`, four-byte aligned after the functions. -/
def finiCode : List UInt8 :=
  [0x00, 0x00, 0x00, 0x48, 0x83, 0xEC, 0x08, 0x48, 0x83, 0xC4, 0x08, 0xC3]

/-- Where the executable segment starts, from the module's base. -/
def codeStart : Nat := 0x1000

/-- The bytes of the executable segment; `_init` is padded with zeros to the stub table. -/
def codeBytes : List UInt8 :=
  initCode ++ List.replicate 9 0 ++ stubCode ++ runtimeCode ++ registerCode ++
    createInterfaceCode ++ boneCacheCode ++ helperCode ++ finiCode

/-- A function a module exports: its name, where it starts from the base, and its size. -/
structure Export where
  name : String
  start : Nat
  size : Nat

/-- The functions every stand-in module exports, in the order of their addresses. -/
def exports : List Export :=
  [⟨"oracle_register", 0x10F9, registerCode.length⟩,
    ⟨"CreateInterface", 0x110F, createInterfaceCode.length⟩,
    ⟨"oracle_bone_cache", 0x1163, boneCacheCode.length + helperCode.length⟩]

/-- Where `oracle_bone_cache` starts, from the module's base. -/
def boneCacheOffset : Int := 0x1163

/-- Where the helper starts, from the module's base. -/
def helperOffset : Int := boneCacheOffset + 0x1e

/-- The addresses a module's segments cover, from its base: up to the end of its data. -/
def mappedSize : Nat := 0x4040

/-- The byte of the first function's argument that it returns the word of. -/
def boneCacheField : Int := 0x40

/-- The lower-case hexadecimal digits of a number. -/
def hexText (n : Nat) : String := String.ofList (Nat.toDigits 16 n)

/-- The name of a code address of a module, as the loader gives it: by the exported function
it lies in, else by its offset in the module, else `unknown`. -/
def codeText (module : String) (offset : Int) : String :=
  if offset < 0 ∨ mappedSize ≤ offset then "unknown"
  else
    let off := offset.toNat
    match exports.find? fun e => e.start ≤ off ∧ off < e.start + e.size with
    | some e => moduleFileName module ++ ":" ++ e.name ++ "+0x" ++ hexText (off - e.start)
    | none => moduleFileName module ++ "+0x" ++ hexText off

/-- The stand-in module a name picks, by its file name. -/
def moduleNamed? (name : String) : Option String :=
  moduleNames.find? fun m => moduleFileName m == moduleFileName name

end EngineSdk.StandIn
