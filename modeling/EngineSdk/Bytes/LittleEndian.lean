/-!
# Little-endian integers

The engine stores integers least significant byte first.  `toNat` reads a byte list as such a
number and `ofNat w n` writes the low `w` bytes of `n`; reading what was written gives `n`
modulo `256 ^ w` (`toNat_ofNat`).  `toSigned` reads the same bits as a two's complement number.
-/

namespace EngineSdk.LittleEndian

/-- The number whose little-endian bytes are `bs`. -/
def toNat : List UInt8 → Nat
  | [] => 0
  | b :: bs => b.toNat + 256 * toNat bs

/-- The low `w` bytes of `n`, least significant first. -/
def ofNat : Nat → Nat → List UInt8
  | 0, _ => []
  | w + 1, n => (n % 256).toUInt8 :: ofNat w (n / 256)

/-- A number of `bits` bits read as two's complement. -/
def toSigned (bits : Nat) (n : Nat) : Int :=
  if n < Nat.pow 2 (bits - 1) then n else (n : Int) - (Nat.pow 2 bits : Int)

/-- The `w` bytes of an integer in two's complement. -/
def ofInt (w : Nat) (i : Int) : List UInt8 :=
  ofNat w (i % (Nat.pow 2 (8 * w) : Int)).toNat

@[simp] theorem toNat_nil : toNat [] = 0 := rfl

@[simp] theorem toNat_cons (b : UInt8) (bs : List UInt8) :
  toNat (b :: bs) = b.toNat + 256 * toNat bs
  := rfl

@[simp] theorem length_ofNat (w n : Nat) : (ofNat w n).length = w := by
  induction w generalizing n with
  | zero => rfl
  | succ w ih => simp [ofNat, ih]

theorem toNat_ofNat (w n : Nat) : toNat (ofNat w n) = n % Nat.pow 256 w := by
  induction w generalizing n with
  | zero => exact (Nat.mod_one n).symm
  | succ w ih =>
    simp only [ofNat, toNat_cons, ih]
    have h : ((n % 256).toUInt8).toNat = n % 256 := by
      simp [Nat.toUInt8]
    rw [h, show Nat.pow 256 (w + 1) = 256 * Nat.pow 256 w from Nat.mul_comm _ _, Nat.mod_mul,
      Nat.add_comm]

end EngineSdk.LittleEndian
