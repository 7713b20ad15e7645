import Mathlib
import EngineSdk.Proofs.NetClassExpansion

/-!
# When the derive's names clash

The derive names the items it writes for a networked field after the field's name without one
leading underscore, `f`: the offset cell `__S__F_OFFSET` and the constants `F_PROP` and `F_TABLE`
after that name upper-cased, `F`, and the offset function `f_offset`, the getters `f` and `try_f`
and the setter `set_f` after `f` itself.  Distinct fields need not get distinct names: `x` and `_x`
are both accessed as `x`, `x` and `X` share their constants, and a field named `try_y` is accessed
as `y`'s `try_` getter.

Names of different kinds are told apart by their last character (`T`, `P`, `E` and `t` end the
offset cell, the constants and the offset function) or by their first (an upper-cased text never
starts with a lower-case letter, while `try_` and `set_` do).  Only a getter, which can be any
name, and an offset function, which can be `try_offset` or `set_offset`, escape that.
`itemNames_nodup_iff` turns this into the exact condition for the names of a struct's networked
fields to be pairwise distinct, and `cell_eq_iff` says when the offset cells of two structs meet.
-/

namespace EngineSdk.Unicode

/-! ### Upper case never gives an ASCII lower-case letter -/

theorem runs_avoid_ascii_lower :
  ∀ r ∈ upperRuns, (r.last : Int) + r.delta < 97 ∨ 122 < (r.first : Int) + r.delta
  := by
  decide +kernel

theorem special_avoid_ascii_lower : ∀ p ∈ upperSpecial, ∀ n ∈ p.2, ¬ (97 ≤ n ∧ n ≤ 122) := by
  decide

theorem special_ne_nil : ∀ p ∈ upperSpecial, p.2 ≠ [] := by
  decide

/-- The run `a`..`z` to `A`..`Z`. -/
theorem exists_ascii_run : ∃ r ∈ upperRuns, r.first = 97 ∧ r.last = 122 ∧ r.step = 1 := by
  decide +kernel

theorem code_of_isLower {m : Nat} (h : (Char.ofNat m).isLower = true) : 97 ≤ m ∧ m ≤ 122 := by
  unfold Char.ofNat at h
  split at h
  · simpa [Char.isLower, Char.ofNatAux, UInt32.le_iff_toNat_le] using h
  · exact absurd h (by decide)

theorem mem_upperSpecial_of_lookup {n : Nat} {cs : List Nat} (h : upperSpecial.lookup n = some cs) :
  (n, cs) ∈ upperSpecial
  := by
  obtain ⟨l₁, l₂, hl, -⟩ := List.lookup_eq_some_iff.1 h
  rw [hl]
  simp

/-- No character's upper case holds an ASCII lower-case letter. -/
theorem not_isLower_of_mem_upperOf {c d : Char} (h : d ∈ (upperOf c).toList) :
  d.isLower = false
  := by
  rw [Bool.eq_false_iff]
  intro hd
  unfold upperOf at h
  split at h
  · rename_i cs hcs
    rw [String.toList_ofList, List.mem_map] at h
    obtain ⟨n, hn, rfl⟩ := h
    exact special_avoid_ascii_lower _ (mem_upperSpecial_of_lookup hcs) n hn (code_of_isLower hd)
  · split at h
    · rename_i r hr
      simp only [Char.toString, String.toList_singleton, List.mem_singleton] at h
      subst h
      have hcov := Array.find?_some hr
      simp only [CaseRun.covers, Bool.and_eq_true, decide_eq_true_eq] at hcov
      have hcode := code_of_isLower hd
      rcases runs_avoid_ascii_lower r (Array.mem_of_find?_eq_some hr) with hrun | hrun <;> omega
    · rename_i hr
      simp only [Char.toString, String.toList_singleton, List.mem_singleton] at h
      subst h
      obtain ⟨r, hr₀, hfirst, hlast, hstep⟩ := exists_ascii_run
      refine Array.find?_eq_none.1 hr r hr₀ ?_
      simp only [Char.isLower, Bool.and_eq_true, decide_eq_true_eq] at hd
      simp only [CaseRun.covers, hfirst, hlast, hstep, Nat.mod_one, beq_self_eq_true,
        Bool.and_true, Bool.and_eq_true, decide_eq_true_eq]
      exact ⟨hd.1, hd.2⟩

theorem one_le_length_upperOf (c : Char) : 1 ≤ (upperOf c).length := by
  unfold upperOf
  split
  · rename_i cs hcs
    have hne := special_ne_nil _ (mem_upperSpecial_of_lookup hcs)
    rw [String.length_ofList, List.length_map]
    exact List.length_pos_iff.2 hne
  · split <;> simp [Char.toString]

theorem not_isLower_of_mem_toUpper {s : String} {d : Char} (h : d ∈ (toUpper s).toList) :
  d.isLower = false
  := by
  rw [toUpper, String.toList_join, List.mem_flatMap] at h
  obtain ⟨u, hu, hd⟩ := h
  obtain ⟨c, -, rfl⟩ := List.mem_map.1 hu
  exact not_isLower_of_mem_upperOf hd

theorem length_le_length_toUpper (s : String) : s.length ≤ (toUpper s).length := by
  rw [toUpper, String.length_join, List.map_map, ← String.length_toList]
  calc s.toList.length = (s.toList.map fun _ => 1).sum := by simp
    _ ≤ (s.toList.map (String.length ∘ upperOf)).sum :=
      List.sum_le_sum fun c _ => one_le_length_upperOf c

end EngineSdk.Unicode

namespace EngineSdk.NetClass

/-! ### The items of a networked field, by kind -/

/-- The kinds of item the derive names for a networked field. -/
inductive ItemKind where
  | cell
  | propConst
  | tableConst
  | offset
  | getter
  | tryGetter
  | setter
deriving DecidableEq

def ItemKind.all : List ItemKind :=
  [.cell, .propConst, .tableConst, .offset, .getter, .tryGetter, .setter]

/-- The name of the item of kind `k` for the networked field `f` of the struct `structName`; a
read-only field has no setter. -/
def itemName (structName : String) (f : FieldSpec) : ItemKind → Option String
  | .cell => some (expectedNames structName f).cell
  | .propConst => some (expectedNames structName f).propConst
  | .tableConst => some (expectedNames structName f).tableConst
  | .offset => some (expectedNames structName f).offset
  | .getter => some (expectedNames structName f).getter
  | .tryGetter => some (expectedNames structName f).tryGetter
  | .setter => (expectedNames structName f).setter

/-- The names of the items the derive writes for a networked field. -/
def fieldItemNames (structName : String) (f : FieldSpec) : List String :=
  ItemKind.all.filterMap (itemName structName f)

/-- The names of the items the derive writes for the networked fields of a struct, field by
field. -/
def ClassSpec.itemNames (c : ClassSpec) : List String :=
  c.props.flatMap fun fp => fieldItemNames c.name fp.1

section Kinds

variable {structName structName' : String} {f g : FieldSpec} {k k' : ItemKind} {a b : String}

theorem mem_fieldItemNames : a ∈ fieldItemNames structName f ↔ ∃ k, itemName structName f k = some a := by
  simp only [fieldItemNames, List.mem_filterMap]
  exact ⟨fun ⟨k, _, hk⟩ => ⟨k, hk⟩, fun ⟨k, hk⟩ => ⟨k, by cases k <;> decide, hk⟩⟩

theorem itemName_setter :
  itemName structName f .setter = some a ↔ f.args.readonly = false ∧ "set_" ++ cleanName f.name = a
  := by
  cases h : f.args.readonly <;> simp [itemName, expectedNames, h]

/-- Every name but the getter is longer than the field's name. -/
theorem length_lt_of_itemName (hk : k ≠ .getter) (h : itemName structName f k = some a) :
  (cleanName f.name).length < a.length
  := by
  have hup := Unicode.length_le_length_toUpper (cleanName f.name)
  cases k with
  | getter => exact absurd rfl hk
  | setter =>
    obtain ⟨-, rfl⟩ := itemName_setter.1 h
    simp only [← String.length_toList, String.toList_append, List.length_append]
    simp only [String.reduceToList, List.length_cons, List.length_nil]
    omega
  | _ =>
    simp only [itemName, expectedNames, Option.some.injEq] at h
    subst h
    simp only [← String.length_toList, String.toList_append, List.length_append] at hup ⊢
    simp only [String.reduceToList, List.length_cons, List.length_nil]
    omega

/-! Names of different kinds are mostly told apart by their first or last character. -/

/-- The first character of a text when it is an ASCII lower-case letter. -/
def lowerFront (s : String) : Option Char :=
  s.toList.head?.filter Char.isLower

/-- The last character of every name of the kind, where the kind fixes it. -/
def ItemKind.back? : ItemKind → Option Char
  | .cell => some 'T'
  | .propConst => some 'P'
  | .tableConst => some 'E'
  | .offset => some 't'
  | _ => none

/-- `lowerFront` of every name of the kind, where the kind fixes it. -/
def ItemKind.front? : ItemKind → Option (Option Char)
  | .cell | .propConst | .tableConst => some none
  | .tryGetter => some (some 't')
  | .setter => some (some 's')
  | _ => none

/-- Names of the kinds `k` and `k'` differ in their last character or in `lowerFront`. -/
def ItemKind.tellsApart (k k' : ItemKind) : Bool :=
  (k.back?.isSome && k'.back?.isSome && k.back? != k'.back?) ||
    (k.front?.isSome && k'.front?.isSome && k.front? != k'.front?)

/-- An upper-cased text followed by a text that does not start with a lower-case letter does
not start with one. -/
theorem lowerFront_toUpper_append (s t : String) (ht : lowerFront t = none) :
  lowerFront (Unicode.toUpper s ++ t) = none
  := by
  unfold lowerFront at ht ⊢
  rw [String.toList_append]
  cases hs : (Unicode.toUpper s).toList with
  | nil => simpa using ht
  | cons d r =>
    have hd := Unicode.not_isLower_of_mem_toUpper (s := s) (d := d) (by simp [hs])
    simp [hd]

theorem back?_itemName (h : itemName structName f k = some a) :
  ∀ x ∈ k.back?, a.toList.getLast? = some x
  := by
  cases k <;> simp only [itemName, expectedNames, Option.some.injEq] at h <;>
    simp only [ItemKind.back?, ← h, String.toList_append, List.getLast?_append] <;> simp

theorem front?_itemName (h : itemName structName f k = some a) :
  ∀ x ∈ k.front?, lowerFront a = x
  := by
  cases k with
  | cell =>
    simp only [itemName, expectedNames, Option.some.injEq] at h
    simp [ItemKind.front?, ← h, lowerFront, String.toList_append]
  | propConst =>
    simp only [itemName, expectedNames, Option.some.injEq] at h
    simp [ItemKind.front?, ← h, lowerFront_toUpper_append (cleanName f.name) "_PROP" (by decide)]
  | tableConst =>
    simp only [itemName, expectedNames, Option.some.injEq] at h
    simp [ItemKind.front?, ← h, lowerFront_toUpper_append (cleanName f.name) "_TABLE" (by decide)]
  | tryGetter =>
    simp only [itemName, expectedNames, Option.some.injEq] at h
    simp [ItemKind.front?, ← h, lowerFront, String.toList_append]
  | setter =>
    obtain ⟨-, rfl⟩ := itemName_setter.1 h
    simp [ItemKind.front?, lowerFront, String.toList_append]
  | offset | getter => simp [ItemKind.front?]

theorem ne_of_tellsApart (hk : k.tellsApart k' = true) (ha : itemName structName f k = some a)
    (hb : itemName structName' g k' = some b) : a ≠ b
  := by
  rintro rfl
  simp only [ItemKind.tellsApart, Bool.or_eq_true, Bool.and_eq_true, Option.isSome_iff_exists,
    bne_iff_ne, ne_eq] at hk
  rcases hk with ⟨⟨⟨x, hx⟩, y, hy⟩, hne⟩ | ⟨⟨⟨x, hx⟩, y, hy⟩, hne⟩
  · have hxy := (back?_itemName ha x hx).symm.trans (back?_itemName hb y hy)
    simp_all
  · have hxy := (front?_itemName ha x hx).symm.trans (front?_itemName hb y hy)
    simp_all

/-- Two names of different kinds are told apart by their characters, unless one is a getter, or
one is an offset function and the other a `try_` getter or a setter. -/
theorem tellsApart_of_ne : ∀ k k' : ItemKind, k ≠ k' →
    k.tellsApart k' = true ∨ k = .getter ∨ k' = .getter ∨
      k = .offset ∧ (k' = .tryGetter ∨ k' = .setter) ∨
      (k = .tryGetter ∨ k = .setter) ∧ k' = .offset
  := by
  intro k k'
  cases k <;> cases k' <;> decide

/-- Names of one kind are equal only for fields with one upper-cased name. -/
theorem toUpper_eq_of_itemName_eq (ha : itemName structName f k = some a)
    (hb : itemName structName g k = some a) :
  Unicode.toUpper (cleanName f.name) = Unicode.toUpper (cleanName g.name)
  := by
  have h := ha.trans hb.symm
  cases k with
  | setter =>
    obtain ⟨-, rfl⟩ := itemName_setter.1 ha
    obtain ⟨-, hg⟩ := itemName_setter.1 hb
    rw [String.append_right_inj] at hg
    rw [hg]
  | _ =>
    simp only [itemName, expectedNames, Option.some.injEq, String.append_left_inj,
      String.append_right_inj] at h
    rw [h]

end Kinds

/-! ### Fields whose names are apart -/

/-- The names of the networked fields `f` and `g` of the struct `structName` do not meet in the
ways names of different kinds can: `f`'s getter is no other name made for `g`, and `f`'s `try_`
getter and setter are not `g`'s offset function. -/
structure FieldsApart (structName : String) (f g : FieldSpec) : Prop where
  getter_fresh : ∀ k, k ≠ .getter → itemName structName g k ≠ some (cleanName f.name)
  tryGetter_ne_offset : "try_" ++ cleanName f.name ≠ cleanName g.name ++ "_offset"
  setter_ne_offset :
    f.args.readonly = false → "set_" ++ cleanName f.name ≠ cleanName g.name ++ "_offset"

/-- The networked fields of a struct upper-cased are pairwise distinct, and any two of them are
apart. -/
def ClassSpec.NamesApart (c : ClassSpec) : Prop :=
  (c.props.map fun fp => Unicode.toUpper (cleanName fp.1.name)).Nodup ∧
    ∀ fp ∈ c.props, ∀ gp ∈ c.props, fp ≠ gp → FieldsApart c.name fp.1 gp.1

section Apart

variable {structName : String} {f g : FieldSpec} {k k' : ItemKind} {a : String}

/-- A field is apart from itself: its names have different lengths where their characters do
not tell them apart. -/
theorem fieldsApart_self (structName : String) (f : FieldSpec) : FieldsApart structName f f where
  getter_fresh k hk h := (length_lt_of_itemName hk h).ne rfl
  tryGetter_ne_offset h := by
    have := congrArg (fun s : String => s.toList.length) h
    simp only [String.toList_append, List.length_append, String.reduceToList, List.length_cons,
      List.length_nil] at this
    omega
  setter_ne_offset _ h := by
    have := congrArg (fun s : String => s.toList.length) h
    simp only [String.toList_append, List.length_append, String.reduceToList, List.length_cons,
      List.length_nil] at this
    omega

/-- Between fields that are apart both ways, equal names are names of one kind. -/
theorem kind_eq_of_itemName_eq (hfg : FieldsApart structName f g) (hgf : FieldsApart structName g f)
    (ha : itemName structName f k = some a) (hb : itemName structName g k' = some a) : k = k'
  := by
  by_contra hne
  rcases tellsApart_of_ne k k' hne with hk | rfl | rfl | ⟨rfl, rfl | rfl⟩ | ⟨rfl | rfl, rfl⟩
  · exact ne_of_tellsApart hk ha hb rfl
  · obtain rfl := Option.some.inj ha
    exact hfg.getter_fresh k' (Ne.symm hne) hb
  · obtain rfl := Option.some.inj hb
    exact hgf.getter_fresh k hne ha
  · obtain rfl := Option.some.inj ha
    exact hgf.tryGetter_ne_offset (Option.some.inj hb)
  · obtain rfl := Option.some.inj ha
    obtain ⟨hro, h⟩ := itemName_setter.1 hb
    exact hgf.setter_ne_offset hro h
  · obtain rfl := Option.some.inj hb
    exact hfg.tryGetter_ne_offset (Option.some.inj ha)
  · obtain rfl := Option.some.inj hb
    obtain ⟨hro, h⟩ := itemName_setter.1 ha
    exact hfg.setter_ne_offset hro h

/-- The names of one field are pairwise distinct. -/
theorem fieldItemNames_nodup (structName : String) (f : FieldSpec) :
  (fieldItemNames structName f).Nodup
  :=
  List.Nodup.filterMap
    (fun _ _ _ ha hb => kind_eq_of_itemName_eq (fieldsApart_self structName f)
      (fieldsApart_self structName f) ha hb)
    (by decide)

theorem fieldItemNames_disjoint
    (hu : Unicode.toUpper (cleanName f.name) ≠ Unicode.toUpper (cleanName g.name))
    (hfg : FieldsApart structName f g) (hgf : FieldsApart structName g f) :
  (fieldItemNames structName f).Disjoint (fieldItemNames structName g)
  := by
  intro a ha hb
  obtain ⟨k, hk⟩ := mem_fieldItemNames.1 ha
  obtain ⟨k', hk'⟩ := mem_fieldItemNames.1 hb
  obtain rfl := kind_eq_of_itemName_eq hfg hgf hk hk'
  exact hu (toUpper_eq_of_itemName_eq hk hk')

theorem fieldsApart_of_disjoint
    (h : (fieldItemNames structName f).Disjoint (fieldItemNames structName g)) :
    FieldsApart structName f g where
  getter_fresh k _ hk := h (mem_fieldItemNames.2 ⟨.getter, rfl⟩) (mem_fieldItemNames.2 ⟨k, hk⟩)
  tryGetter_ne_offset e :=
    h (mem_fieldItemNames.2 ⟨.tryGetter, rfl⟩) (mem_fieldItemNames.2 ⟨.offset, congrArg some e.symm⟩)
  setter_ne_offset hro e :=
    h (mem_fieldItemNames.2 ⟨.setter, itemName_setter.2 ⟨hro, rfl⟩⟩)
      (mem_fieldItemNames.2 ⟨.offset, congrArg some e.symm⟩)

/-- Fields with one upper-cased name share their offset cell. -/
theorem cell_eq_of_toUpper_eq
    (hu : Unicode.toUpper (cleanName f.name) = Unicode.toUpper (cleanName g.name)) :
  itemName structName f .cell = itemName structName g .cell
  := by
  simp [itemName, expectedNames, hu]

end Apart

/-- The names the derive writes for the networked fields of a struct are pairwise distinct
exactly when the fields upper-cased are pairwise distinct and any two of them are apart. -/
theorem itemNames_nodup_iff (c : ClassSpec) : c.itemNames.Nodup ↔ c.NamesApart := by
  rw [ClassSpec.itemNames, List.nodup_flatMap]
  constructor
  · rintro ⟨-, hdisj⟩
    have : Std.Symm (Function.onFun List.Disjoint fun fp : FieldSpec × String =>
        fieldItemNames c.name fp.1) := ⟨fun _ _ h => h.symm⟩
    refine ⟨List.pairwise_map.2 (hdisj.imp fun hd hu => ?_),
      fun fp hfp gp hgp hne => fieldsApart_of_disjoint (hdisj.forall hfp hgp hne)⟩
    exact hd (mem_fieldItemNames.2 ⟨.cell, rfl⟩)
      (mem_fieldItemNames.2 ⟨.cell, (cell_eq_of_toUpper_eq hu).symm⟩)
  · rintro ⟨hu, hapart⟩
    refine ⟨fun fp _ => fieldItemNames_nodup c.name fp.1, ?_⟩
    refine (List.pairwise_map.1 hu).imp_of_mem fun {fp gp} hfp hgp hne => ?_
    have hfg : fp ≠ gp := by
      rintro rfl
      exact hne rfl
    exact fieldItemNames_disjoint hne (hapart _ hfp _ hgp hfg) (hapart _ hgp _ hfp (Ne.symm hfg))

/-! ### Offset cells of different structs -/

/-- A text in which no two underscores stand together and which does not end in an underscore:
joined to any text by a double underscore, it can be read back. -/
def SeparatorFree (s : String) : Prop :=
  ¬ ['_', '_'] <:+: s.toList ∧ s.toList.getLast? ≠ some '_'

/-- When `s ++ "__" ++ t` starts with `s ++ u`, for `u` the start of `"__" ++ t`, and `s ++ u` is
separator-free, `u` is empty. -/
theorem eq_nil_of_separator {s u t t' : List Char} (hs : ¬ ['_', '_'] <:+: s ++ u)
    (hl : (s ++ u).getLast? ≠ some '_') (h : '_' :: '_' :: t = u ++ '_' :: '_' :: t') : u = []
  := by
  match u, h with
  | [], _ => rfl
  | [x], h =>
    simp only [List.singleton_append, List.cons.injEq] at h
    rw [← h.1] at hl
    simp at hl
  | x :: y :: r, h =>
    simp only [List.cons_append, List.cons.injEq] at h
    rw [← h.1, ← h.2.1] at hs
    exact absurd ⟨s, r, by simp⟩ hs

theorem eq_of_separator_eq {s s' t t' : List Char} (hs : ¬ ['_', '_'] <:+: s)
    (hl : s.getLast? ≠ some '_') (hs' : ¬ ['_', '_'] <:+: s') (hl' : s'.getLast? ≠ some '_')
    (h : s ++ '_' :: '_' :: t = s' ++ '_' :: '_' :: t') : s = s' ∧ t = t'
  := by
  rcases List.append_eq_append_iff.1 h with ⟨u, rfl, hu⟩ | ⟨u, rfl, hu⟩
  · obtain rfl := eq_nil_of_separator hs' hl' hu
    simpa using hu
  · obtain rfl := eq_nil_of_separator hs hl hu
    simpa using hu.symm

/-- The offset cells of two networked fields, of any two structs whose names upper-cased are
separator-free, coincide exactly when the structs' names upper-cased do and the fields' do. -/
theorem cell_eq_iff {structName structName' : String} {f g : FieldSpec}
    (hS : SeparatorFree (Unicode.toUpper structName))
    (hS' : SeparatorFree (Unicode.toUpper structName')) :
  (expectedNames structName f).cell = (expectedNames structName' g).cell ↔
    Unicode.toUpper structName = Unicode.toUpper structName' ∧
      Unicode.toUpper (cleanName f.name) = Unicode.toUpper (cleanName g.name)
  := by
  constructor
  · intro h
    simp only [expectedNames, String.append_left_inj] at h
    simp only [String.append_assoc, String.ext_iff, String.toList_append] at h
    obtain ⟨h₁, h₂⟩ := eq_of_separator_eq hS.1 hS.2 hS'.1 hS'.2 (by simpa using h)
    exact ⟨String.ext_iff.2 h₁, String.ext_iff.2 h₂⟩
  · rintro ⟨h₁, h₂⟩
    simp [expectedNames, h₁, h₂]

/-- Without the condition, the field `b` of `A_` and the field `__b` of `A` share an offset cell. -/
example : (expectedNames "A_" ⟨"b", .other [], ⟨some "m_b", none, false⟩⟩).cell =
    (expectedNames "A" ⟨"__b", .other [], ⟨some "m_b", none, false⟩⟩).cell := by
  decide +kernel

/-! ### The claim -/

/-- The names of the items the derive writes for a struct's networked fields are pairwise
distinct exactly when the fields' names upper-cased are pairwise distinct and no getter, `try_`
getter or setter takes a name the fields' other kinds of name can take; the offset cells of fields
of structs with separator-free names upper-cased coincide only for one struct name and one field
name, upper-cased. -/
theorem item_names_distinct_iff_apart :
  (∀ c : ClassSpec, c.itemNames.Nodup ↔ c.NamesApart) ∧
  ∀ (structName structName' : String) (f g : FieldSpec),
    SeparatorFree (Unicode.toUpper structName) → SeparatorFree (Unicode.toUpper structName') →
    ((expectedNames structName f).cell = (expectedNames structName' g).cell ↔
      Unicode.toUpper structName = Unicode.toUpper structName' ∧
        Unicode.toUpper (cleanName f.name) = Unicode.toUpper (cleanName g.name))
  :=
  ⟨itemNames_nodup_iff, fun _ _ _ _ hS hS' => cell_eq_iff hS hS'⟩

/-- The fields `x` and `_x` are both accessed as `x`: the derive writes every name of their items
twice. -/
theorem underscored_twin_shares_item_names :
  let c : ClassSpec := ⟨"S", ["pub"], "DT_X",
    [⟨"ptr", .other ["*", "mut", "c_void"], ⟨none, none, false⟩⟩,
      ⟨"x", .path ["i32"] "i32" none true, ⟨some "m_x", none, false⟩⟩,
      ⟨"_x", .path ["i32"] "i32" none true, ⟨some "m_y", none, false⟩⟩]⟩
  let names := ["__S__X_OFFSET", "X_PROP", "X_TABLE", "x_offset", "x", "try_x", "set_x"]
  c.expand = .ok (Units.text c.expected) ∧ c.itemNames = names ++ names
  := by
  intro c names
  refine ⟨expand_of_idents c rfl ?_, ?_⟩
  · unfold ClassSpec.NamesAreIdents
    decide +kernel
  · decide +kernel

end EngineSdk.NetClass
