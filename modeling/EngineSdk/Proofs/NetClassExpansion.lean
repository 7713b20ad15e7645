import Mathlib
import EngineSdk.NetClass.Expand

/-!
# What the derive writes

For a struct with a `ptr` field, `ClassSpec.expand` writes in turn a static offset cell for each
networked field, the struct's own `impl` with its default table and each networked field's two
constants, an `impl` of accessors for each networked field, and the `NetClass` implementation.
Every name it makes is checked to be an identifier as it is made, and a name that is not one stops
the derive; a struct without a `ptr` field gets one compile error instead.

The items are written by the templates `staticItem`, `constItems`, `accessorImpl`, `mainImpl` and
`netClassImplWith`, each taking the names and values it writes.  `ClassSpec.expected` gives those
names and values as the derive's rules state them (`expectedNames`): a field's accessors are
named by its name without one leading underscore, its constants and offset cell by that name
upper-cased, its table is its own or the struct's, it has a setter unless it is read-only, its
accessors use the type inside a `PhantomData`, and `from_ptr` sets every field but `ptr`.
`expand_writes_expected` shows the derive writes exactly that when every name is an identifier,
and stops otherwise.
-/

namespace EngineSdk.NetClass

/-! ### Names -/

/-- The names the derive gives the networked field `f` of the struct `structName`. -/
def expectedNames (structName : String) (f : FieldSpec) : AccessorNames where
  cell := "__" ++ Unicode.toUpper structName ++ "__" ++ Unicode.toUpper (cleanName f.name) ++
    "_OFFSET"
  propConst := Unicode.toUpper (cleanName f.name) ++ "_PROP"
  tableConst := Unicode.toUpper (cleanName f.name) ++ "_TABLE"
  offset := cleanName f.name ++ "_offset"
  getter := cleanName f.name
  tryGetter := "try_" ++ cleanName f.name
  setter := if f.args.readonly then none else some ("set_" ++ cleanName f.name)

/-- Every name the derive makes for a networked field; the setter's name is made even for a
read-only field. -/
def madeNames (structName : String) (f : FieldSpec) : List String :=
  let n := expectedNames structName f
  [n.cell, n.propConst, n.tableConst, n.getter, n.tryGetter, "set_" ++ cleanName f.name, n.offset]

/-- Every name the derive makes for the networked fields is an identifier. -/
def ClassSpec.NamesAreIdents (c : ClassSpec) : Prop :=
  ∀ fp ∈ c.props, ∀ n ∈ madeNames c.name fp.1, identFault n = none

theorem makeIdent_of_identFault {text : String} (h : identFault text = none) :
  makeIdent text = .ok text
  := by
  simp [makeIdent, h]

/-- A name made in a chain that succeeds is an identifier. -/
theorem makeIdent_bind_ok {α : Type} {text : String} {k : String → Except String α} {u : α}
    (h : (makeIdent text >>= k) = .ok u) : identFault text = none ∧ k text = .ok u
  := by
  unfold makeIdent at h
  cases hf : identFault text with
  | some e =>
    rw [hf] at h
    cases h
  | none =>
    rw [hf] at h
    exact ⟨rfl, h⟩

/-! ### The items of one field -/

section Field

variable (c : ClassSpec) (f : FieldSpec) (prop : String)

/-- The names of a field, one by one. -/
theorem identFault_madeNames (h : ∀ n ∈ madeNames c.name f, identFault n = none) :
  identFault (expectedNames c.name f).cell = none ∧
    identFault (expectedNames c.name f).propConst = none ∧
    identFault (expectedNames c.name f).tableConst = none ∧
    identFault (expectedNames c.name f).getter = none ∧
    identFault (expectedNames c.name f).tryGetter = none ∧
    identFault ("set_" ++ cleanName f.name) = none ∧
    identFault (expectedNames c.name f).offset = none
  := by
  simpa only [madeNames, List.mem_cons, List.not_mem_nil, or_false, forall_eq_or_imp,
    forall_eq] using h

theorem offsetStatic_of_idents (h : ∀ n ∈ madeNames c.name f, identFault n = none) :
  offsetStatic c f = .ok (staticItem (expectedNames c.name f).cell)
  := by
  obtain ⟨hcell, -⟩ := identFault_madeNames c f h
  dsimp only [expectedNames] at hcell
  simp only [offsetStatic, offsetCell]
  rw [makeIdent_of_identFault hcell]
  rfl

theorem propConstants_of_idents (h : ∀ n ∈ madeNames c.name f, identFault n = none) :
  propConstants c f prop = .ok (constItems (cleanName f.name) prop
    (expectedNames c.name f).propConst (expectedNames c.name f).tableConst
    (f.args.table.getD c.table))
  := by
  obtain ⟨-, hprop, htable, -⟩ := identFault_madeNames c f h
  dsimp only [expectedNames] at hprop htable
  simp only [propConstants]
  rw [makeIdent_of_identFault hprop, makeIdent_of_identFault htable]
  rfl

theorem accessors_of_idents (h : ∀ n ∈ madeNames c.name f, identFault n = none) :
  accessors c f prop =
    .ok (accessorImpl c.name f.name prop (expectedNames c.name f) f.ty.inner.units)
  := by
  obtain ⟨hcell, hprop, htable, hget, htry, hset, hoff⟩ := identFault_madeNames c f h
  dsimp only [expectedNames] at hcell hprop htable hget htry hoff
  simp only [accessors, offsetCell]
  rw [makeIdent_of_identFault hcell, makeIdent_of_identFault hprop,
    makeIdent_of_identFault htable, makeIdent_of_identFault hget, makeIdent_of_identFault htry,
    makeIdent_of_identFault hset, makeIdent_of_identFault hoff]
  rfl

/-- The accessors of a field are written only when every name made for it is an identifier. -/
theorem idents_of_accessors {u : Units} (h : accessors c f prop = .ok u) :
  ∀ n ∈ madeNames c.name f, identFault n = none
  := by
  simp only [accessors, offsetCell] at h
  obtain ⟨hcell, h⟩ := makeIdent_bind_ok h
  obtain ⟨hprop, h⟩ := makeIdent_bind_ok h
  obtain ⟨htable, h⟩ := makeIdent_bind_ok h
  obtain ⟨hget, h⟩ := makeIdent_bind_ok h
  obtain ⟨htry, h⟩ := makeIdent_bind_ok h
  obtain ⟨hset, h⟩ := makeIdent_bind_ok h
  obtain ⟨hoff, -⟩ := makeIdent_bind_ok h
  simp only [madeNames, expectedNames, List.mem_cons, List.not_mem_nil, or_false,
    forall_eq_or_imp, forall_eq]
  exact ⟨hcell, hprop, htable, hget, htry, hset, hoff⟩

end Field

/-! ### The whole expansion -/

section MapM

variable {ε α β : Type}

theorem mapM_eq_ok_map {f : α → Except ε β} {g : α → β} {l : List α}
    (h : ∀ x ∈ l, f x = .ok (g x)) : l.mapM f = .ok (l.map g)
  := by
  induction l with
  | nil => rfl
  | cons x l ih =>
    rw [List.mapM_cons, h x List.mem_cons_self, ih fun y hy => h y (List.mem_cons_of_mem x hy)]
    rfl

theorem exists_ok_of_mapM {f : α → Except ε β} {l : List α} {ys : List β}
    (h : l.mapM f = .ok ys) : ∀ x ∈ l, ∃ y, f x = .ok y
  := by
  induction l generalizing ys with
  | nil => simp
  | cons x l ih =>
    rw [List.mapM_cons] at h
    cases hx : f x with
    | error e =>
      rw [hx] at h
      cases h
    | ok y =>
      rw [hx] at h
      cases hl : l.mapM f with
      | error e =>
        rw [hl] at h
        cases h
      | ok zs =>
        intro z hz
        rcases List.mem_cons.mp hz with rfl | hz
        · exact ⟨y, hx⟩
        · exact ih hl z hz

theorem exists_of_bind_ok {x : Except ε α} {k : α → Except ε β} {u : β}
    (h : (x >>= k) = .ok u) : ∃ a, x = .ok a ∧ k a = .ok u
  := by
  cases hx : x with
  | error e =>
    rw [hx] at h
    cases h
  | ok a =>
    rw [hx] at h
    exact ⟨a, rfl, h⟩

end MapM

/-- What the derive writes for a struct with a `ptr` field: the items, with the names and values
the derive's rules give. -/
def ClassSpec.expected (c : ClassSpec) : Units :=
  (c.props.map fun (f, _) => staticItem (expectedNames c.name f).cell).flatten ++
    mainImpl c.name c.vis c.table
      (c.props.map fun (f, p) => constItems (cleanName f.name) p (expectedNames c.name f).propConst
        (expectedNames c.name f).tableConst (f.args.table.getD c.table)).flatten ++
    (c.props.map fun (f, p) =>
      accessorImpl c.name f.name p (expectedNames c.name f) f.ty.inner.units).flatten ++
    netClassImplWith c.name ((c.fields.filter (·.name != "ptr")).map fun f => (f.name, f.ty.isPhantom))

variable (c : ClassSpec)

/-- A struct without a `ptr` field gets one compile error and nothing else. -/
theorem expand_of_no_ptr (h : c.fields.any (·.name == "ptr") = false) :
  c.expand = .ok (Units.text (compileError "NetClass requires a `ptr: *mut c_void` field"))
  := by
  unfold ClassSpec.expand
  rw [h]
  rfl

theorem expand_of_idents (hptr : c.fields.any (·.name == "ptr") = true) (h : c.NamesAreIdents) :
  c.expand = .ok (Units.text c.expected)
  := by
  have hstatics := mapM_eq_ok_map fun (fp : FieldSpec × String) hfp =>
    offsetStatic_of_idents c fp.1 (h fp hfp)
  have hconsts := mapM_eq_ok_map fun (fp : FieldSpec × String) hfp =>
    propConstants_of_idents c fp.1 fp.2 (h fp hfp)
  have haccess := mapM_eq_ok_map fun (fp : FieldSpec × String) hfp =>
    accessors_of_idents c fp.1 fp.2 (h fp hfp)
  simp only [ClassSpec.expand, hptr, Bool.not_true]
  rw [hstatics, hconsts, haccess]
  rfl

/-- A derive over a struct with a `ptr` field that writes anything made only identifiers. -/
theorem idents_of_expand_ok (hptr : c.fields.any (·.name == "ptr") = true) {text : String}
    (h : c.expand = .ok text) : c.NamesAreIdents
  := by
  simp only [ClassSpec.expand, hptr, Bool.not_true] at h
  obtain ⟨_, -, h⟩ := exists_of_bind_ok h
  obtain ⟨_, -, h⟩ := exists_of_bind_ok h
  obtain ⟨access, haccess, -⟩ := exists_of_bind_ok h
  intro fp hfp
  obtain ⟨u, hu⟩ := exists_ok_of_mapM haccess fp hfp
  exact idents_of_accessors c fp.1 fp.2 hu

/-- The derive writes exactly the expected items.  A struct without a `ptr` field gets one
compile error.  A struct with one, when every name made is an identifier, gets its offset cells,
its own `impl` with its default table and every networked field's constants, the accessors of
every networked field and the `NetClass` implementation, with the names and values the derive's
rules give; when a name made is not an identifier, the derive stops and writes nothing. -/
theorem expand_writes_expected (c : ClassSpec) :
  (c.fields.any (·.name == "ptr") = false →
    c.expand = .ok (Units.text (compileError "NetClass requires a `ptr: *mut c_void` field"))) ∧
  (c.fields.any (·.name == "ptr") = true →
    (c.NamesAreIdents → c.expand = .ok (Units.text c.expected)) ∧
    (¬ c.NamesAreIdents → ∃ e, c.expand = .error e))
  := by
  refine ⟨expand_of_no_ptr c, fun hptr => ⟨expand_of_idents c hptr, fun hnot => ?_⟩⟩
  cases hexp : c.expand with
  | error e => exact ⟨e, rfl⟩
  | ok text => exact (hnot (idents_of_expand_ok c hptr hexp)).elim

/-- A networked field named `_0` is accessed as `0`, and its constant `0_PROP` is not an
identifier: the derive stops instead of writing the struct's items. -/
theorem expand_stops_on_digit_field :
  ({ name := "S", vis := ["pub"], table := "DT_X",
      fields := [⟨"ptr", .other ["*", "mut", "c_void"], ⟨none, none, false⟩⟩,
        ⟨"_0", .path ["i32"] "i32" none true, ⟨some "m_x", none, false⟩⟩] } : ClassSpec).expand =
    .error "\"0_PROP\" is not a valid Ident"
  := by
  decide +kernel

/-! ### The derive on source text -/

/-- Only a union is refused as a shape the derive never expects. -/
theorem body_of_ofItem_unreachable {item : Item} (h : ClassSpec.ofItem item = .error .unreachable) :
  item.body = .union
  := by
  unfold ClassSpec.ofItem at h
  split at h
  · assumption
  · dsimp only at h
    split_ifs at h
    · cases h
    · split at h
      · split_ifs at h
        cases h
      · cases h
    · cases h
    · split at h
      · split_ifs at h
        cases h
      · cases h

theorem ofItem_eq_unreachable_iff (item : Item) :
  ClassSpec.ofItem item = .error .unreachable ↔ item.body = .union
  :=
  ⟨body_of_ofItem_unreachable, fun h => by simp [ClassSpec.ofItem, h]⟩

/-- The derive stops exactly on a union, or on a struct with a `ptr` field of which a name made
for a networked field is not an identifier.  Every other item that reads gives tokens: the
expansion, or compile errors. -/
theorem derive_stops_iff_union_or_non_identifier (src : String) :
  (∃ e, derive src = .error (.stopped e)) ↔
    ∃ item, Item.parse src = .ok item ∧
      (item.body = .union ∨ ∃ spec, ClassSpec.ofItem item = .ok spec ∧
        spec.fields.any (·.name == "ptr") = true ∧ ¬ spec.NamesAreIdents)
  := by
  unfold derive
  cases hparse : Item.parse src with
  | error e => simp
  | ok item =>
    simp only [Except.ok.injEq, exists_eq_left']
    by_cases hunion : item.body = .union
    · simp [(ofItem_eq_unreachable_iff item).2 hunion, hunion]
    simp only [hunion, false_or]
    cases hspec : ClassSpec.ofItem item with
    | error r =>
      cases r with
      | unreachable => exact absurd ((ofItem_eq_unreachable_iff item).1 hspec) hunion
      | errors es => simp
    | ok spec =>
      simp only [Except.ok.injEq, exists_eq_left']
      cases hptr : spec.fields.any (·.name == "ptr") with
      | false => simp [expand_of_no_ptr spec hptr]
      | true =>
        by_cases hnames : spec.NamesAreIdents
        · simp [expand_of_idents spec hptr hnames, hnames]
        · cases hexp : spec.expand with
          | error e => simp [hnames]
          | ok text => exact absurd (idents_of_expand_ok spec hptr hexp) hnames

/-- A networked field named `_1` stops the derive: its constant would be named `1_PROP`. -/
theorem derive_stops_on_numeric_field_name :
  derive
      "#[netclass(table = \"DT_X\")] pub struct S \x7b ptr: *mut c_void, #[netprop(prop = \"m_x\")] _1: i32 \x7d" =
    .error (.stopped "\"1_PROP\" is not a valid Ident")
  := by
  decide +kernel

end EngineSdk.NetClass
