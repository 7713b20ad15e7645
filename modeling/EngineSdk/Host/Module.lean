import EngineSdk.Panic

/-!
# Loaded modules

A module is named by a short name such as `client`; its file on disk is `client.so`, except for
the libraries that carry a `lib` prefix.  A name with a point in it is already a file name.

A loaded module occupies the addresses from its base up to, not including, its base plus its
size.  The end is computed in 64 bits only for addresses at or above the base, and overflows
there.
-/

namespace EngineSdk

/-- The file name of a module. -/
def moduleFileName (m : String) : String :=
  if m.contains '.' then m
  else if m = "tier0" ∨ m = "vstdlib" ∨ m = "steam_api" then "lib" ++ m ++ ".so"
  else m ++ ".so"

/-- The addresses a loaded module occupies. -/
structure ModuleRange where
  base : Nat
  size : Nat
deriving Repr, DecidableEq

/-- The module occupies `address`. -/
def ModuleRange.contains (r : ModuleRange) (address : Nat) : Except Panic Bool :=
  if address < r.base then .ok false
  else do
    let stop ← Panic.addUnsigned 64 r.base r.size
    pure (decide (address < stop))

end EngineSdk
