/-!
# Material variable flags

A material's variable flags are the bits of a 32-bit word; bits `0` to `30` are named.  A flag
set is written as its named bits, lowest first, joined by ` | `, followed by the remaining bits
in hexadecimal (`0x80000000`); the empty set is written `0x0`.
-/

namespace EngineSdk.MaterialFlags

/-- The names of bits `0` to `30`, in bit order. -/
def names : List String :=
  ["DEBUG", "NO_DEBUG_OVERRIDE", "NO_DRAW", "USE_IN_FILLRATE_MODE", "VERTEXCOLOR", "VERTEXALPHA",
    "SELFILLUM", "ADDITIVE", "ALPHATEST", "MULTIPASS", "ZNEARER", "MODEL", "FLAT", "NOCULL",
    "NOFOG", "IGNOREZ", "DECAL", "ENVMAPSPHERE", "NOALPHAMOD", "ENVMAPCAMERASPACE",
    "BASEALPHAENVMAPMASK", "TRANSLUCENT", "NORMALMAPALPHAENVMAPMASK", "NEEDS_SOFTWARE_SKINNING",
    "OPAQUETEXTURE", "ENVMAPMODE", "SUPPRESS_DECALS", "HALFLAMBERT", "WIREFRAME",
    "ALLOWALPHATOCOVERAGE", "IGNORE_ALPHA_MODULATION"]

/-- The bits that have a name. -/
def known : Nat := Nat.pow 2 31 - 1

/-- The names of the named bits set in a word, lowest first. -/
def namesOf (bits : Nat) : List String :=
  (names.zipIdx).filterMap fun (n, i) => if bits / Nat.pow 2 i % 2 = 1 then some n else none

/-- The named bits of a word. -/
def truncate (bits : Nat) : Nat := bits % Nat.pow 2 31

/-- Every set bit of the word has a name. -/
def allKnown (bits : Nat) : Bool := bits < Nat.pow 2 31

/-- Lower-case hexadecimal digits of a number. -/
def hex (n : Nat) : String := String.ofList (Nat.toDigits 16 n)

/-- The text of a flag set. -/
def render (bits : Nat) : String :=
  if bits = 0 then "0x0"
  else
    let named := namesOf bits
    let rest := bits - truncate bits
    let parts := if rest = 0 then named else named ++ ["0x" ++ hex rest]
    " | ".intercalate parts

end EngineSdk.MaterialFlags
