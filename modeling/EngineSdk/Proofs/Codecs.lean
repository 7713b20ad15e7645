import Mathlib
import EngineSdk.Entity.Handle
import EngineSdk.Game.Codes

/-!
# Handles and codes read back

Two kinds of engine words are packed and read back here.

An entity handle packs a slot index and a serial into one 32-bit word (`EntityHandle.new`).  As a
number the word is the index's low 12 bits plus `2 ^ 12` times the serial's low 20 bits
(`toNat_raw_new`), and `index` and `serial` read the two parts of any word (`toNat_index`,
`toNat_serial`).  So every word is the packing of its own index and serial, packing keeps exactly
the low bits of its arguments, and since the all-ones word is the only invalid one, a packed
handle is invalid exactly when both parts are all ones (`handle_packing_bijective`).  A typed
handle made from an untyped one answers and compares as it, also after a cast.

An enumeration's codes are read back by `Coded.tryFrom`.  Where every value is listed and no two
values share a code (`Coded.Exact`), reading a number gives the value with that code, or the
number itself back when it is no code (`Coded.RoundTrips`); all ten enumerations of the game are
exact (`codes_read_back`).
-/

namespace EngineSdk

/-! ### Entity handles as numbers -/

namespace EntityHandle

theorem toNat_and_entryMask (x : UInt32) : (x &&& entryMask).toNat = x.toNat % 2 ^ 12 := by
  rw [UInt32.toNat_and, ← Nat.and_two_pow_sub_one_eq_mod]
  rfl

/-- The packed word is the index's low 12 bits below the serial's low 20 bits: the two parts
share no bit, so their bitwise or is their sum. -/
theorem toNat_raw_new (i s : UInt32) :
  (new i s).raw.toNat = i.toNat % 2 ^ 12 + 2 ^ 12 * (s.toNat % 2 ^ 20)
  := by
  have hshift : (s <<< 12).toNat = 2 ^ 12 * (s.toNat % 2 ^ 20) := by
    rw [UInt32.toNat_shiftLeft, Nat.shiftLeft_eq]
    show s.toNat * 2 ^ 12 % (2 ^ 12 * 2 ^ 20) = _
    rw [Nat.mul_comm, Nat.mul_mod_mul_left]
  rw [new, UInt32.toNat_or, toNat_and_entryMask, hshift, Nat.or_comm,
    ← Nat.two_pow_add_eq_or_of_lt (Nat.mod_lt _ (by norm_num))]
  omega

theorem toNat_index (h : EntityHandle) : h.index.toNat = h.raw.toNat % 2 ^ 12 :=
  toNat_and_entryMask h.raw

theorem toNat_serial (h : EntityHandle) : h.serial.toNat = h.raw.toNat / 2 ^ 12 := by
  rw [serial, UInt32.toNat_shiftRight, Nat.shiftRight_eq_div_pow]
  rfl

/-- Every handle is the packing of its own index and serial. -/
theorem new_index_serial (h : EntityHandle) : new h.index h.serial = h := by
  apply EntityHandle.ext
  rw [← UInt32.toNat_inj, toNat_raw_new, toNat_index, toNat_serial]
  have hlt := h.raw.toNat_lt
  omega

theorem index_new (i s : UInt32) : (new i s).index = i &&& entryMask := by
  apply UInt32.toNat_inj.mp
  rw [toNat_index, toNat_raw_new, toNat_and_entryMask]
  omega

/-- The serial of a packed handle is the serial asked for, modulo `2 ^ 20`. -/
theorem serial_new (i s : UInt32) : (new i s).serial = s % 0x100000 := by
  apply UInt32.toNat_inj.mp
  rw [toNat_serial, toNat_raw_new, UInt32.toNat_mod]
  show _ = s.toNat % 2 ^ 20
  omega

/-- A packed handle is invalid exactly when its index and its serial are all ones. -/
theorem isValid_new_eq_false_iff (i s : UInt32) :
  (new i s).isValid = false ↔ i &&& entryMask = entryMask ∧ s % 0x100000 = 0xFFFFF
  := by
  rw [isValid, bne_eq_false_iff_eq, ← UInt32.toNat_inj, ← UInt32.toNat_inj, ← UInt32.toNat_inj,
    toNat_raw_new, toNat_and_entryMask, UInt32.toNat_mod]
  show _ = 4294967295 ↔ _ = 4095 ∧ s.toNat % 2 ^ 20 = 1048575
  omega

end EntityHandle

/-! ### Typed handles -/

namespace TypedHandle

variable {α β : Type}

/-- A typed handle answers as the untyped handle `h`: the same word, index, serial and
validity. -/
def AnswersAs (t : TypedHandle α) (h : EntityHandle) : Prop :=
  t.raw = h.raw ∧ t.index = h.index ∧ t.serial = h.serial ∧ t.isValid = h.isValid

@[simp] theorem base_ofBase (h : EntityHandle) : (ofBase h : TypedHandle α).base = h := rfl

@[simp] theorem base_cast (t : TypedHandle α) : (t.cast : TypedHandle β).base = t.base := rfl

theorem answersAs_base (t : TypedHandle α) : t.AnswersAs t.base := ⟨rfl, rfl, rfl, rfl⟩

/-- Typed handles are equal exactly when their untyped handles are. -/
theorem beq_eq_base_beq (t t' : TypedHandle α) : (t == t') = (t.base == t'.base) := by
  obtain ⟨h⟩ := t
  obtain ⟨h'⟩ := t'
  by_cases e : h = h'
  · simp [e]
  · have hne : (⟨h⟩ : TypedHandle α) ≠ ⟨h'⟩ := fun he => e (TypedHandle.mk.inj he)
    simp [e, hne]

end TypedHandle

open EntityHandle TypedHandle in
/-- Handle packing is a bijection on words: every word is the packing of its index and serial,
packing keeps the low 12 bits of the index and the low 20 bits of the serial, and a packed handle
is invalid exactly when both are all ones.  A typed handle made from an untyped one answers and
compares as the untyped one, also when cast to another kind. -/
theorem handle_packing_bijective :
  (∀ raw : UInt32, new (EntityHandle.mk raw).index (EntityHandle.mk raw).serial =
    EntityHandle.mk raw) ∧
  (∀ i s : UInt32, (new i s).index = i &&& 0xFFF ∧ (new i s).serial = s % 0x100000) ∧
  (∀ i s : UInt32,
    (new i s).isValid = true ↔ ¬(i &&& 0xFFF = 0xFFF ∧ s % 0x100000 = 0xFFFFF)) ∧
  (∀ (α β : Type) (h h' : EntityHandle),
    (ofBase h : TypedHandle α).AnswersAs h ∧
    ((ofBase h : TypedHandle α).cast : TypedHandle β).AnswersAs h ∧
    ((ofBase h : TypedHandle α) == ofBase h') = (h == h') ∧
    (((ofBase h : TypedHandle α).cast : TypedHandle β) == (ofBase h' : TypedHandle α).cast) =
      (h == h'))
  := by
  refine ⟨fun raw => new_index_serial _, fun i s => ⟨index_new i s, serial_new i s⟩,
    fun i s => ?_, fun α β h h' => ?_⟩
  · rw [← Bool.not_eq_false, isValid_new_eq_false_iff]
    rfl
  · refine ⟨answersAs_base _, answersAs_base _, ?_, ?_⟩
    · rw [beq_eq_base_beq, base_ofBase, base_ofBase]
    · rw [beq_eq_base_beq, base_cast, base_cast, base_ofBase, base_ofBase]

example : EntityHandle.new 5 0x34 = ⟨0x00034005⟩ ∧ (EntityHandle.new 0x1FFF 1).index = 0xFFF := by
  decide

/-! ### Codes of enumerations -/

namespace Coded

variable {α : Type} [Coded α]

/-- Every value of `α` is listed, and no two values share a code. -/
structure Exact (α : Type) [Coded α] : Prop where
  mem_all : ∀ e : α, e ∈ (all : List α)
  nodup_codes : ((all : List α).map code).Nodup

/-- Reading codes inverts them: a number reads as the value with that code, and a number that is
no code is given back unchanged. -/
structure RoundTrips (α : Type) [Coded α] : Prop where
  ok_iff : ∀ (v : Int) (e : α), tryFrom v = .ok e ↔ code e = v
  error_iff : ∀ v w : Int, (tryFrom v : Except Int α) = .error w ↔ w = v ∧ ∀ e : α, code e ≠ v
  of_code : ∀ e : α, tryFrom (code e) = .ok e

variable (hx : Exact α)
include hx

theorem decode?_eq_none_iff {v : Int} : (decode? v : Option α) = none ↔ ∀ e : α, code e ≠ v := by
  simp only [decode?, List.find?_eq_none, beq_iff_eq]
  exact ⟨fun h e => h e (hx.mem_all e), fun h e _ => h e⟩

theorem decode?_eq_some_iff {v : Int} {e : α} : decode? v = some e ↔ code e = v := by
  constructor
  · intro h
    simpa using List.find?_some h
  · intro h
    obtain ⟨e', he'⟩ : ∃ e', (decode? v : Option α) = some e' := by
      cases hd : (decode? v : Option α) with
      | some e' => exact ⟨e', rfl⟩
      | none => exact absurd h ((decode?_eq_none_iff hx).mp hd e)
    have hcode : code e' = v := by simpa using List.find?_some he'
    have hsame : e' = e := List.inj_on_of_nodup_map hx.nodup_codes
      (List.mem_of_find?_eq_some he') (hx.mem_all e) (hcode.trans h.symm)
    rw [he', hsame]

theorem Exact.roundTrips : RoundTrips α where
  ok_iff v e := by
    rw [tryFrom, ← decode?_eq_some_iff hx]
    cases (decode? v : Option α) <;> simp
  error_iff v w := by
    rw [tryFrom, ← decode?_eq_none_iff hx]
    cases (decode? v : Option α) <;> simp [eq_comm]
  of_code e := by
    rw [tryFrom, (decode?_eq_some_iff hx).mpr rfl]

end Coded

theorem exact_frameStage : Coded.Exact FrameStage := ⟨fun e => by cases e <;> decide, by decide⟩
theorem exact_playerClass : Coded.Exact PlayerClass := ⟨fun e => by cases e <;> decide, by decide⟩
theorem exact_team : Coded.Exact Team := ⟨fun e => by cases e <;> decide, by decide⟩
theorem exact_lifeState : Coded.Exact LifeState := ⟨fun e => by cases e <;> decide, by decide⟩
theorem exact_moveType : Coded.Exact MoveType := ⟨fun e => by cases e <;> decide, by decide⟩
theorem exact_teleporterState : Coded.Exact TeleporterState :=
  ⟨fun e => by cases e <;> decide, by decide⟩
theorem exact_sentryState : Coded.Exact SentryState := ⟨fun e => by cases e <;> decide, by decide⟩
theorem exact_buildingKind : Coded.Exact BuildingKind :=
  ⟨fun e => by cases e <;> decide, by decide⟩
theorem exact_pluginResult : Coded.Exact PluginResult :=
  ⟨fun e => by cases e <;> decide, by decide⟩
theorem exact_propKind : Coded.Exact PropKind := ⟨fun e => by cases e <;> decide, by decide⟩

/-- Each of the game's ten enumerations reads its codes back, over every integer. -/
theorem codes_read_back :
  Coded.RoundTrips FrameStage ∧ Coded.RoundTrips PlayerClass ∧ Coded.RoundTrips Team ∧
  Coded.RoundTrips LifeState ∧ Coded.RoundTrips MoveType ∧
  Coded.RoundTrips TeleporterState ∧ Coded.RoundTrips SentryState ∧
  Coded.RoundTrips BuildingKind ∧ Coded.RoundTrips PluginResult ∧ Coded.RoundTrips PropKind
  :=
  ⟨exact_frameStage.roundTrips, exact_playerClass.roundTrips, exact_team.roundTrips,
    exact_lifeState.roundTrips, exact_moveType.roundTrips, exact_teleporterState.roundTrips,
    exact_sentryState.roundTrips, exact_buildingKind.roundTrips, exact_pluginResult.roundTrips,
    exact_propKind.roundTrips⟩

example : (Coded.tryFrom (-1) : Except Int FrameStage) = .ok .undefined ∧
    (Coded.tryFrom 7 : Except Int FrameStage) = .error 7 := by
  constructor <;> rfl

end EngineSdk
