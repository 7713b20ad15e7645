/-!
# Name hashes

Networked variables are looked up by the names of their table and property.  The lookup cache
keys them by a 64-bit value made of two 32-bit FNV-1a hashes: the table name's in the high half
and the property name's in the low half.

FNV-1a starts from the offset basis `0x811c9dc5` and, for each byte, takes the exclusive or with
the byte and then multiplies by the prime `0x01000193`, modulo `2 ^ 32`.
-/

namespace EngineSdk.Netvar

/-- The FNV-1a offset basis. -/
def fnvBasis : UInt32 := 0x811c9dc5

/-- The FNV-1a prime. -/
def fnvPrime : UInt32 := 0x01000193

/-- One FNV-1a step: mix in one byte. -/
def fnvStep (h : UInt32) (b : UInt8) : UInt32 := (h ^^^ b.toUInt32) * fnvPrime

/-- The 32-bit FNV-1a hash of a byte string. -/
def fnv1a (bytes : List UInt8) : UInt32 := bytes.foldl fnvStep fnvBasis

/-- The cache key of a property: the table name's hash in the high half, the property name's in
the low half. -/
def combinedKey (table prop : List UInt8) : UInt64 :=
  ((fnv1a table).toUInt64 <<< 32) ||| (fnv1a prop).toUInt64

@[simp] theorem fnv1a_nil : fnv1a [] = fnvBasis := rfl

@[simp] theorem fnv1a_append (xs ys : List UInt8) :
  fnv1a (xs ++ ys) = ys.foldl fnvStep (fnv1a xs)
  := by
  simp [fnv1a, List.foldl_append]

end EngineSdk.Netvar
