import Mathlib
import EngineSdk.Convar.Basic

/-!
# Aliased console variables

A console variable whose parent link is set is an alias: it keeps its own name and its own
`IConVar` interface, but every value it reports and every change of flags goes to the parent.
Write `o` for the index the link names (the variable itself when the link is null) and `q` for
the variable there.

* Every getter but the name reads `q`; the name reads the variable itself (`reads_follow_parent`).
  The string is `FCVAR_NEVER_AS_STRING` exactly when bit 12 of `q`'s flags is set
  (`isFlagSet_neverAsString`).
* Any run of flag additions and removals through the alias leaves every variable as it was but
  `q`, whose flags end as the fold of `|||` and `&&& ~~~` over the run, in 32 bits
  (`get?_foldl_editFlags`).
* The setters call a slot of the alias's own vtable and record the alias, and a string holding a
  NUL calls nothing (`callSetter_eq_some_iff`, `setString_of_nul`).  The interface lies 48 bytes
  into the variable (`iconvarOffset_eq`).
-/

namespace EngineSdk

/-! ### Bit 12 of a flag word -/

theorem Int.testBit_twelve_eq (x : Int) : x.testBit 12 = decide (x / 4096 % 2 = 1) := by
  cases x with
  | ofNat m =>
    simp only [Int.testBit, Nat.testBit_eq_decide_div_mod_eq, Nat.reducePow, decide_eq_decide,
      Int.ofNat_eq_natCast]
    omega
  | negSucc m =>
    simp only [Int.testBit, Nat.testBit_eq_decide_div_mod_eq, Nat.reducePow, ← decide_not,
      decide_eq_decide, Int.negSucc_eq]
    omega

theorem getLsbD_ofInt_twelve (x : Int) : (BitVec.ofInt 32 x).getLsbD 12 = x.testBit 12 := by
  rw [BitVec.getLsbD, BitVec.toNat_ofInt, Nat.testBit_eq_decide_div_mod_eq,
    Int.testBit_twelve_eq]
  simp only [Nat.reducePow, decide_eq_decide]
  omega

/-- Masking a word with `4096` keeps bit 12 and clears the others. -/
theorem ofInt_and_4096 (x : Int) :
  (BitVec.ofInt 32 x &&& 4096#32) = if x.testBit 12 then 4096#32 else 0#32
  := by
  have h4096 : (4096#32) = BitVec.twoPow 32 12 := by decide
  apply BitVec.eq_of_getLsbD_eq
  intro i hi
  rw [BitVec.getLsbD_and, ← getLsbD_ofInt_twelve, h4096, BitVec.getLsbD_twoPow]
  by_cases h12 : i = 12
  · subst h12
    split <;> simp_all
  · split <;> simp_all <;> intro _ <;> omega

theorem toInt32_and_4096_ne_zero (x : Int) :
  (x.toInt32 &&& (4096 : Int32) != 0) = x.testBit 12
  := by
  have h : (x.toInt32 &&& (4096 : Int32)).toBitVec = BitVec.ofInt 32 x &&& 4096#32 := by
    simp
  rw [ofInt_and_4096] at h
  cases hb : x.testBit 12
  · have hz : x.toInt32 &&& (4096 : Int32) = 0 := by
      rw [← Int32.toBitVec_inj]
      simpa [hb] using h
    simp [hz]
  · have hz : x.toInt32 &&& (4096 : Int32) ≠ 0 := by
      intro hz
      rw [hz, hb] at h
      simp at h
    simp [hz]

/-! ### Reads -/

namespace ConVarTable

variable {t : ConVarTable} {i o : Nat} {c q : ConVar}

/-- The variable a read goes to: the one the parent link names, or the variable itself. -/
theorem owner_eq (hc : t.get? i = some c) (ho : c.parent = none ∧ o = i ∨ c.parent = some o) :
  t.owner i = o
  := by
  rcases ho with ⟨hp, rfl⟩ | hp <;> simp [owner, hc, hp]

theorem ownerValue_eq {α : Type} (hown : t.owner i = o) (hq : t.get? o = some q)
    (f : ConVar → α) (d : α) : t.ownerValue i f d = f q
  := by
  simp [ownerValue, hown, hq]

theorem isFlagSet_neverAsString (t : ConVarTable) (i : Nat) :
  t.isFlagSet i ConVarFlags.neverAsString = (t.flags i).testBit 12
  := by
  rw [isFlagSet, show ConVarFlags.neverAsString.toInt32 = 4096 by decide,
    toInt32_and_4096_ne_zero]

/-- Every getter but the name reads the variable the parent link names; the name reads the
variable itself. -/
theorem reads_follow_parent (hc : t.get? i = some c)
    (ho : c.parent = none ∧ o = i ∨ c.parent = some o) (hq : t.get? o = some q) :
  t.name i = textOrEmpty c.name ∧ t.helpText i = textOrEmpty q.help ∧
    t.flags i = q.flags ∧ t.getFloat i = q.float ∧ t.getInt i = q.int ∧
    t.getBool i = (q.int != 0) ∧
    t.getString i =
      (if q.flags.testBit 12 then "FCVAR_NEVER_AS_STRING" else textOrEmpty q.string) ∧
    t.defaultValue i = textOrEmpty q.default ∧
    t.min? i = (if q.hasMin then some q.min else none) ∧
    t.max? i = (if q.hasMax then some q.max else none)
  := by
  have hown := owner_eq hc ho
  have hflags : t.flags i = q.flags := ownerValue_eq hown hq _ _
  have hint : t.getInt i = q.int := ownerValue_eq hown hq _ _
  refine ⟨?_, ownerValue_eq hown hq _ _, hflags, ownerValue_eq hown hq _ _, hint, ?_, ?_,
    ownerValue_eq hown hq _ _, ownerValue_eq hown hq _ _, ownerValue_eq hown hq _ _⟩
  · simp [name, rawName, hc, textOrEmpty]
  · rw [getBool, hint]
  · rw [getString, isFlagSet_neverAsString, hflags, ownerValue_eq hown hq]

end ConVarTable

/-! ### Runs of flag changes -/

/-- A change of flags through a variable: bits set, or bits cleared. -/
inductive FlagEdit where
  | add (mask : Int32)
  | remove (mask : Int32)

/-- The flag word after a change. -/
def FlagEdit.word : FlagEdit → Int32 → Int32
  | .add m, w => w ||| m
  | .remove m, w => w &&& ~~~m

/-- The table after a change of flags through variable `i`. -/
def ConVarTable.editFlags (t : ConVarTable) (i : Nat) : FlagEdit → ConVarTable
  | .add m => t.addFlags i m.toInt
  | .remove m => t.removeFlags i m.toInt

namespace ConVarTable

/-- A change of flags changes the flags of the owner and nothing else. -/
theorem get?_editFlags (t : ConVarTable) (i k : Nat) (e : FlagEdit) :
  (t.editFlags i e).get? k =
    if k = t.owner i then (t.get? k).map fun v => { v with flags := (e.word v.flags.toInt32).toInt }
    else t.get? k
  := by
  cases e <;>
  · by_cases hk : k = t.owner i
    · simp [editFlags, addFlags, removeFlags, modifyFlags, get?, hk, FlagEdit.word]
    · simp [editFlags, addFlags, removeFlags, modifyFlags, get?, hk, Ne.symm hk]

/-- A change of flags leaves every parent link, so every owner, as it was. -/
theorem owner_editFlags (t : ConVarTable) (i j : Nat) (e : FlagEdit) :
  (t.editFlags j e).owner i = t.owner i
  := by
  unfold owner
  rw [get?_editFlags]
  split <;> cases t.get? i <;> rfl

/-- Over a run of flag changes through variable `i`, the owner `o` of `i`, holding `q` with the
flag word `w`, ends with the fold of the changes over `w`; every other variable is untouched. -/
theorem get?_foldl_editFlags (edits : List FlagEdit) (t : ConVarTable) (i o : Nat) (q : ConVar)
    (w : Int32) (hown : t.owner i = o) (hq : t.get? o = some q) (hw : q.flags = w.toInt)
    (k : Nat) :
  (edits.foldl (fun t e => t.editFlags i e) t).get? k =
    if k = o then some { q with flags := (edits.foldl (fun w e => e.word w) w).toInt }
    else t.get? k
  := by
  induction edits generalizing t q w with
  | nil =>
    by_cases hk : k = o
    · subst hk
      simp only [List.foldl_nil, if_true, hq, ← hw]
    · simp [hk]
  | cons e edits ih =>
    have hown' : (t.editFlags i e).owner i = o := (owner_editFlags t i i e).trans hown
    have hq' : (t.editFlags i e).get? o = some { q with flags := (e.word w).toInt } := by
      simp [get?_editFlags, hown, hq, hw]
    rw [List.foldl_cons, ih (t.editFlags i e) { q with flags := (e.word w).toInt } (e.word w) hown'
      hq' rfl]
    by_cases hk : k = o
    · simp [hk]
    · simp [hk, get?_editFlags, hown]

/-! ### Setters -/

/-- A string holding a NUL calls no setter. -/
theorem setString_of_nul (t : ConVarTable) (i slot : Nat) (s : String)
    (h : Char.ofNat 0 ∈ s.toList) : t.setString i slot s = none
  := by
  simp [setString, h]

theorem setString_of_no_nul (t : ConVarTable) (i slot : Nat) (s : String)
    (h : Char.ofNat 0 ∉ s.toList) : t.setString i slot s = t.callSetter i slot (.string s)
  := by
  simp [setString, h]

/-- The setter in slot `k` of the variable's own vtable, when the vtable has that slot. -/
theorem setterAt_eq_some_iff {t : ConVarTable} {i : Nat} {c : ConVar} (hc : t.get? i = some c)
    (k : Nat) (s : Setter) :
  t.setterAt i k = some s ↔
    (∃ slots, c.vtable = some slots ∧ slots.getD k false = true) ∧ Setter.ofSlot? k = some s
  := by
  unfold setterAt
  rw [hc, Option.bind_some]
  cases hv : c.vtable with
  | none => simp
  | some slots =>
    by_cases hk : slots.getD k false = true
    · simp only [hk, if_true, Option.some.injEq, exists_eq_left', true_and]
    · simp only [hk, Bool.false_eq_true, if_false, reduceCtorEq, Option.some.injEq,
        exists_eq_left', false_and]

/-- A setter call goes through slot `k` of the variable's own vtable, when it has that slot, and
is made on the variable itself with the value given. -/
theorem callSetter_eq_some_iff {t : ConVarTable} {i : Nat} {c : ConVar} (hc : t.get? i = some c)
    (k : Nat) (v : SetValue) (call : SetterCall) :
  t.callSetter i k v = some call ↔
    (∃ slots, c.vtable = some slots ∧ slots.getD k false = true) ∧
      ∃ s, Setter.ofSlot? k = some s ∧ call = ⟨s, i, v⟩
  := by
  rw [callSetter, Option.map_eq_some_iff]
  constructor
  · rintro ⟨s, hs, rfl⟩
    obtain ⟨hslot, hk⟩ := (setterAt_eq_some_iff hc k s).1 hs
    exact ⟨hslot, s, hk, rfl⟩
  · rintro ⟨hslot, s, hk, rfl⟩
    exact ⟨s, (setterAt_eq_some_iff hc k s).2 ⟨hslot, hk⟩, rfl⟩

end ConVarTable

theorem iconvarOffset_eq : iconvarOffset = 48 := by decide

/-- Reads and flag changes through a console variable follow its parent link, and touch nothing
else.  Take the variable `c` at `i`, whose link is null (then `o = i`) or names `o`, and `q` the
variable at `o`.  The name is `c`'s and every other getter reads `q`; the string is
`FCVAR_NEVER_AS_STRING` exactly when bit 12 of `q`'s flags is set.  Any run of flag additions
and removals through `c` leaves every variable as it was but `q`, whose flags end as the fold of
the run over their 32-bit word.  The setters call slot `k` of `c`'s own vtable (by default 0 for
strings, 1 for floats and 2 for integers), on `c` itself, and nothing when `c`'s vtable lacks the
slot or a string holds a NUL; the interface lies 48 bytes into the variable. -/
theorem conVar_follows_parent_link (t : ConVarTable) (i o : Nat) (c q : ConVar)
    (hc : t.get? i = some c) (ho : c.parent = none ∧ o = i ∨ c.parent = some o)
    (hq : t.get? o = some q) :
  (t.name i = textOrEmpty c.name ∧ t.helpText i = textOrEmpty q.help ∧
    t.flags i = q.flags ∧ t.getFloat i = q.float ∧ t.getInt i = q.int ∧
    t.getBool i = (q.int != 0) ∧
    t.getString i =
      (if q.flags.testBit 12 then "FCVAR_NEVER_AS_STRING" else textOrEmpty q.string) ∧
    t.defaultValue i = textOrEmpty q.default ∧
    t.min? i = (if q.hasMin then some q.min else none) ∧
    t.max? i = (if q.hasMax then some q.max else none)) ∧
  (∀ (w : Int32) (edits : List FlagEdit), q.flags = w.toInt → ∀ k,
    (edits.foldl (fun t e => t.editFlags i e) t).get? k =
      if k = o then some { q with flags := (edits.foldl (fun w e => e.word w) w).toInt }
      else t.get? k) ∧
  (∀ s slot, Char.ofNat 0 ∈ s.toList → t.setString i slot s = none) ∧
  (∀ s slot, Char.ofNat 0 ∉ s.toList → t.setString i slot s = t.callSetter i slot (.string s)) ∧
  (∀ k v call, t.callSetter i k v = some call ↔
    (∃ slots, c.vtable = some slots ∧ slots.getD k false = true) ∧
      ∃ s, Setter.ofSlot? k = some s ∧ call = ⟨s, i, v⟩) ∧
  (Setter.defaultSlot .string = 0 ∧ Setter.defaultSlot .float = 1 ∧ Setter.defaultSlot .int = 2 ∧
    ∀ s, Setter.ofSlot? s.defaultSlot = some s) ∧
  iconvarOffset = 48
  :=
  ⟨ConVarTable.reads_follow_parent hc ho hq,
    fun w edits hw k => ConVarTable.get?_foldl_editFlags edits t i o q w
      (ConVarTable.owner_eq hc ho) hq hw k,
    fun s slot h => t.setString_of_nul i slot s h,
    fun s slot h => t.setString_of_no_nul i slot s h,
    ConVarTable.callSetter_eq_some_iff hc,
    ⟨rfl, rfl, rfl, fun s => by cases s <;> rfl⟩, iconvarOffset_eq⟩

/-- The variable `alias_var`, an alias of the variable at index 1. -/
def aliasVar : ConVar where
  name := some "alias_var".toUTF8.toList
  help := none
  string := some "0".toUTF8.toList
  default := none
  flags := 0
  float := 0
  int := 0
  hasMin := false
  min := 0
  hasMax := false
  max := 0
  parent := some 1
  vtable := some [true, true, true]

/-- The variable `parent_var`, with the value 3, an upper bound of 10 and the notify flag. -/
def parentVar : ConVar where
  name := some "parent_var".toUTF8.toList
  help := some "Help text".toUTF8.toList
  string := some "3".toUTF8.toList
  default := some "0".toUTF8.toList
  flags := ConVarFlags.notify
  float := 3
  int := 3
  hasMin := false
  min := 0
  hasMax := true
  max := 10
  parent := none
  vtable := some [true, true, true]

/-- The alias at index 0, its parent at index 1. -/
def aliasTable : ConVarTable := ⟨[aliasVar, parentVar]⟩

/-- Through the alias at index 0, reads and flag changes go to the variable at index 1. -/
theorem alias_reads_and_edits_parent :
  aliasTable.get? 0 = some aliasVar ∧
    (aliasVar.parent = none ∧ 1 = 0 ∨ aliasVar.parent = some 1) ∧
    aliasTable.get? 1 = some parentVar ∧
  (aliasTable.name 0 = textOrEmpty aliasVar.name ∧
    aliasTable.helpText 0 = textOrEmpty parentVar.help ∧
    aliasTable.flags 0 = parentVar.flags ∧ aliasTable.getFloat 0 = parentVar.float ∧
    aliasTable.getInt 0 = parentVar.int ∧
    aliasTable.getBool 0 = (parentVar.int != 0) ∧
    aliasTable.getString 0 =
      (if parentVar.flags.testBit 12 then "FCVAR_NEVER_AS_STRING"
      else textOrEmpty parentVar.string) ∧
    aliasTable.defaultValue 0 = textOrEmpty parentVar.default ∧
    aliasTable.min? 0 = (if parentVar.hasMin then some parentVar.min else none) ∧
    aliasTable.max? 0 = (if parentVar.hasMax then some parentVar.max else none)) ∧
  (∀ (w : Int32) (edits : List FlagEdit), parentVar.flags = w.toInt → ∀ k,
    (edits.foldl (fun t e => t.editFlags 0 e) aliasTable).get? k =
      if k = 1 then some { parentVar with flags := (edits.foldl (fun w e => e.word w) w).toInt }
      else aliasTable.get? k) ∧
  (∀ s slot, Char.ofNat 0 ∈ s.toList → aliasTable.setString 0 slot s = none) ∧
  (∀ s slot, Char.ofNat 0 ∉ s.toList →
    aliasTable.setString 0 slot s = aliasTable.callSetter 0 slot (.string s)) ∧
  (∀ k v call, aliasTable.callSetter 0 k v = some call ↔
    (∃ slots, aliasVar.vtable = some slots ∧ slots.getD k false = true) ∧
      ∃ s, Setter.ofSlot? k = some s ∧ call = ⟨s, 0, v⟩) ∧
  (Setter.defaultSlot .string = 0 ∧ Setter.defaultSlot .float = 1 ∧ Setter.defaultSlot .int = 2 ∧
    ∀ s, Setter.ofSlot? s.defaultSlot = some s) ∧
  iconvarOffset = 48
  :=
  ⟨rfl, .inr rfl, rfl,
    conVar_follows_parent_link aliasTable 0 1 aliasVar parentVar rfl (.inr rfl) rfl⟩

end EngineSdk
