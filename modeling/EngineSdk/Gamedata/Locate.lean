import EngineSdk.Gamedata.Basic
import EngineSdk.Panic

/-!
# Locating signatures in modules

`Gamedata.locate` finds a named signature in the bytes of a module: it looks the pattern up,
reads it, takes the first match and, when the entry has a read offset `r`, follows the 32-bit
displacement at `r` within the match.  The displacement must lie inside the pattern
(`r + 4 ≤` its length); the sum `r + 4` is taken in 64 bits and stops the call when it does
not fit.  The result is an offset from the start of the searched bytes; a followed
displacement may lead before them or past their end.  A module's searched part starts at an
offset from its base, which `resolveAll` adds.

`Gamedata.resolveAll` locates every signature in its module, taking the names sorted and each
once, asking for each module once, in the order of the names that need it, and records the
address or the reason of the failure for each name.
-/

namespace EngineSdk

/-- The searched part of a loaded module: the module's name, where the part starts from the
module's base, and its bytes. -/
structure ModuleImage where
  name : String
  start : Nat
  bytes : List UInt8
deriving Repr

/-- The largest machine word, `2 ^ 64 - 1`. -/
def wordMax : Nat := Nat.pow 2 64 - 1

namespace Gamedata

/-- The offset of signature `name` in `memory`, of which the first `size` bytes are searched. -/
def locate (g : Gamedata) (name : String) (memory : List UInt8) (size : Nat) :
    Except (Failure GamedataError) Int := do
  let text ← (g.signature name).mapError .error
  let p ← (Pattern.parse text).mapError .error
  let m ← match p.scan memory size with
    | some m => pure m
    | none => throw (.error (.scanFailed name))
  match g.readOffset? name with
  | none => pure m
  | some r =>
    if r + 4 > wordMax then throw (.panic .addOverflow)
    else if r + 4 ≤ p.length then pure (relativeTarget memory (m + r))
    else throw (.error (.invalidSignature (name ++ ": read_offset " ++ toString r ++ " outside pattern")))

/-- The module a signature is searched in. -/
def libraryOf (g : Gamedata) (name : String) : String :=
  (g.library? name).getD SignatureEntry.defaultLibrary

end Gamedata

/-- The outcome of locating every signature. -/
structure Resolution where
  /-- Located names, sorted, with their module and offset in it. -/
  addresses : List (String × String × Int)
  /-- Names that were not located, sorted, with the reason. -/
  failures : List (String × String)
  /-- The modules asked for, in the order asked. -/
  modulesAsked : List String
deriving Repr

namespace Resolution

/-- The names that were located. -/
def resolvedCount (r : Resolution) : Nat := r.addresses.length

end Resolution

namespace Gamedata

/-- One step of `resolveAll`: the outcome so far, the modules known so far, one name. -/
def resolveStep (g : Gamedata) (modules : String → Option ModuleImage)
    (acc : Resolution × List (String × Option ModuleImage)) (name : String) :
    Except Panic (Resolution × List (String × Option ModuleImage)) :=
  let (res, known) := acc
  let lib := g.libraryOf name
  let (image, res, known) := match known.lookup lib with
    | some image => (image, res, known)
    | none =>
      let image := modules lib
      (image, { res with modulesAsked := res.modulesAsked ++ [lib] }, known ++ [(lib, image)])
  match image with
  | none => .ok ({ res with failures := res.failures ++ [(name, "module " ++ lib ++ " not loaded")] }, known)
  | some m =>
    match g.locate name m.bytes m.bytes.length with
    | .ok off => .ok ({ res with addresses := res.addresses ++ [(name, m.name, m.start + off)] }, known)
    | .error (.error e) => .ok ({ res with failures := res.failures ++ [(name, e.message)] }, known)
    | .error (.panic p) => .error p

/-- The signature names in the order they are resolved: each once, sorted. -/
def resolveOrder (g : Gamedata) : List String :=
  g.signatureNames.eraseDups.mergeSort fun a b => decide (a ≤ b)

/-- Locates every signature in its module; `modules` gives the loaded modules by name. -/
def resolveAll (g : Gamedata) (modules : String → Option ModuleImage) : Except Panic Resolution :=
  (g.resolveOrder.foldlM (resolveStep g modules) (⟨[], [], []⟩, [])).map Prod.fst

end Gamedata

end EngineSdk
