import Mathlib
import EngineSdk.Proofs.Startup

/-!
# Loading the engine's interfaces

`ModuleFactories.load` asks the modules' factories for the interfaces of the table: the required
ones first, in table order, stopping at the first it cannot have, then every optional one.  A
factory is asked only when its module has one, and only with version bytes that end in their one
NUL; every request is recorded.

* `lookup` says what asking for a row gives: the object the module's factory serves,
  `missingFactory` for a module without a factory, or `notFound` with the version, the module and
  the code the factory writes back when it serves nothing; `asked` is the request this makes of
  a factory, when there is one.  `require_run` and `optional_run` show one row asked for as
  these say.
* A run of required rows fails with the error of the first row that cannot be had and asks
  nothing after it (`requireAll_run_of_failure`); when every row is served it has them all
  (`requireAll_run_of_served`).
* `load_fails_at_first_missing_required` puts these together for the table, with what a load
  that succeeds holds, and the versions a factory is never asked for (`get_invalid_iff`).
-/

namespace EngineSdk

/-! ### Version bytes -/

/-- Version bytes name a version exactly when they are bytes other than NUL followed by one NUL. -/
theorem versionText?_isSome_iff (v : List UInt8) :
  (versionText? v).isSome ↔ ∃ w, (∀ b ∈ w, b ≠ 0) ∧ v = w ++ [0]
  := by
  constructor
  · intro h
    unfold versionText? at h
    split at h
    · rename_i rest hrev
      split_ifs at h with hc
      · cases h
      · refine ⟨rest.reverse, fun b hb hb0 => ?_, ?_⟩
        · subst hb0
          exact hc (List.contains_iff_mem.mpr (List.mem_reverse.mp hb))
        · rw [← List.reverse_reverse v, hrev, List.reverse_cons]
    · cases h
  · rintro ⟨w, hw, rfl⟩
    have hw0 : 0 ∉ w := fun h0 => hw 0 h0 rfl
    simp [versionText?, hw0]

/-- Bytes that do not end in their one NUL are refused before the factory is asked; any others
are passed to it, and the request is recorded. -/
theorem Factory.get_invalid_iff {ι : Type} (f : Factory ι) (v : List UInt8) (qs : List Query) :
  (∃ t, (f.get v).run.run qs = (.error (.invalidVersionString t), qs)) ↔
    ¬ ∃ w, (∀ b ∈ w, b ≠ 0) ∧ v = w ++ [0]
  := by
  rw [← versionText?_isSome_iff, Bool.not_eq_true, Option.isSome_eq_false_iff, Option.isNone_iff_eq_none]
  unfold Factory.get
  cases hv : versionText? v with
  | none => exact iff_of_true ⟨_, run_run_throw _ _⟩ rfl
  | some t =>
    simp only [run_run_bind, run_run_modify, reduceCtorEq, iff_false, not_exists]
    intro e
    cases (f.offer t).object <;> simp only [run_run_throw, run_run_pure] <;>
      exact fun h =>
        absurd (congrArg (fun r : Except InterfaceError ι × List Query => r.2.length) h) (by simp)

/-! ### Running requests -/

section Run

variable {ε σ α β : Type}

theorem run_run_bind_of_ok {x : ExceptT ε (StateM σ) α} {f : α → ExceptT ε (StateM σ) β}
    {s s' : σ} {a : α} (h : x.run.run s = (.ok a, s')) :
  (x >>= f).run.run s = (f a).run.run s'
  := by
  rw [run_run_bind, h]

theorem run_run_bind_of_error {x : ExceptT ε (StateM σ) α} {f : α → ExceptT ε (StateM σ) β}
    {s s' : σ} {e : ε} (h : x.run.run s = (.error e, s')) :
  (x >>= f).run.run s = (.error e, s')
  := by
  rw [run_run_bind, h]

theorem run_bind_of_run {x : StateM σ α} {f : α → StateM σ β} {s s' : σ} {a : α}
    (h : x.run s = (a, s')) : (x >>= f).run s = (f a).run s'
  := by
  rw [StateT.run_bind, h]
  rfl

end Run

/-! ### One row -/

namespace ModuleFactories

variable {ι : Type} (fs : ModuleFactories ι)

/-- What asking the module's factory for a row's interface gives: the object it serves;
`missingFactory` when the module has no factory; `notFound`, with the version, the module and the
code the factory writes back (`0` when it writes none), when it serves nothing. -/
def lookup (i : Interface) : Except InterfaceError ι :=
  match fs.get? i.module with
  | none => .error (.missingFactory i.module)
  | some f =>
    match (f.offer i.version).object with
    | some x => .ok x
    | none => .error (.notFound i.version i.module ((f.offer i.version).code.getD 0))

/-- The request that asking for a row makes: one of its module's factory, for the row's version,
when the module has a factory. -/
def asked (i : Interface) : List Query :=
  match fs.get? i.module with
  | none => []
  | some f => [⟨i.module, i.version, f.supplied⟩]

theorem module_of_get? {m : String} {f : Factory ι} (h : fs.get? m = some f) : f.module = m := by
  simpa [get?] using List.find?_some h

theorem lookup_eq_ok_iff (i : Interface) (x : ι) : fs.lookup i = .ok x ↔ fs.served i = some x := by
  unfold lookup served
  cases fs.get? i.module with
  | none => simp
  | some f =>
    dsimp only
    split
    · rename_i y hy
      simp [hy]
    · rename_i hy
      simp [hy]

theorem lookup_toOption (i : Interface) : (fs.lookup i).toOption = fs.served i := by
  cases h : fs.served i with
  | some x => rw [(fs.lookup_eq_ok_iff i x).mpr h]; rfl
  | none =>
    cases hl : fs.lookup i with
    | ok x => rw [fs.lookup_eq_ok_iff, h] at hl; cases hl
    | error e => rfl

theorem exists_lookup_eq_ok_iff (i : Interface) :
  (∃ x, fs.lookup i = .ok x) ↔ (fs.served i).isSome
  := by
  simp [lookup_eq_ok_iff, Option.isSome_iff_exists]

/-- A factory asked for a table row's version records the request and answers the object it
serves, or refuses with the code it writes back. -/
theorem Factory.get_run_versionBytes (f : Factory ι) (i : Interface) (qs : List Query) :
  (f.get i.versionBytes).run.run qs =
    ((f.offer i.version).object.elim
        (.error (.notFound i.version f.module ((f.offer i.version).code.getD 0))) .ok,
      qs ++ [⟨f.module, i.version, f.supplied⟩])
  := by
  unfold Factory.get
  rw [versionText?_versionBytes]
  simp only [run_run_bind, run_run_modify]
  cases (f.offer i.version).object <;> rfl

/-- A required row is asked for as `lookup` and `asked` say. -/
theorem require_run (i : Interface) (qs : List Query) :
  (fs.require i.module i.versionBytes).run.run qs = (fs.lookup i, qs ++ fs.asked i)
  := by
  unfold require lookup asked
  cases hf : fs.get? i.module with
  | none =>
    dsimp only
    rw [run_run_throw, List.append_nil]
  | some f =>
    dsimp only
    rw [Factory.get_run_versionBytes, fs.module_of_get? hf]
    cases (f.offer i.version).object <;> rfl

/-- A served required row is had, after its factory is asked. -/
theorem require_run_of_served {i : Interface} {x : ι} (hx : fs.served i = some x)
    (qs : List Query) :
  (fs.require i.module i.versionBytes).run.run qs = (.ok x, qs ++ fs.asked i)
  := by
  rw [fs.require_run, (fs.lookup_eq_ok_iff i x).mpr hx]

/-- An optional row is asked for as `asked` says, and had when it is served. -/
theorem optional_run (i : Interface) (qs : List Query) :
  (fs.optional i.module i.versionBytes).run qs = (fs.served i, qs ++ fs.asked i)
  := by
  unfold optional served asked
  cases hf : fs.get? i.module with
  | none =>
    dsimp only
    rw [List.append_nil]
    rfl
  | some f =>
    dsimp only
    have hrun := Factory.get_run_versionBytes f i qs
    rw [fs.module_of_get? hf] at hrun
    rw [run_bind_of_run hrun, Option.bind_some]
    cases (f.offer i.version).object <;> rfl

/-! ### Runs of rows -/

/-- Asking for required rows that are all served has each of them, after one request of each
row's factory. -/
theorem requireAll_run_of_served {is : List Interface} (h : ∀ i ∈ is, (fs.served i).isSome)
    (qs : List Query) :
  (fs.requireAll (is.map Interface.request)).run.run qs =
    (.ok (fs.objectsOf is), qs ++ is.flatMap fs.asked)
  := by
  induction is generalizing qs with
  | nil => rw [List.map_nil, requireAll, run_run_pure, List.flatMap_nil, List.append_nil]; rfl
  | cons i is ih =>
    obtain ⟨x, hx⟩ := Option.isSome_iff_exists.mp (h i List.mem_cons_self)
    rw [requireAll_request_cons, run_run_bind_of_ok (fs.require_run_of_served hx qs),
      run_run_bind_of_ok (ih (fun j hj => h j (List.mem_cons_of_mem i hj)) _), run_run_pure,
      objectsOf_cons_of_served hx, List.flatMap_cons, List.append_assoc]

/-- Asking for required rows fails with the error of the first row that cannot be had, and asks
no factory after it. -/
theorem requireAll_run_of_failure {pre post : List Interface} {i : Interface}
    {e : InterfaceError} (hpre : ∀ j ∈ pre, (fs.served j).isSome) (hi : fs.lookup i = .error e)
    (qs : List Query) :
  (fs.requireAll ((pre ++ i :: post).map Interface.request)).run.run qs =
    (.error e, qs ++ (pre ++ [i]).flatMap fs.asked)
  := by
  induction pre generalizing qs with
  | nil =>
    have hreq : (fs.require i.module i.versionBytes).run.run qs = (.error e, qs ++ fs.asked i) := by
      rw [fs.require_run, hi]
    rw [List.nil_append, requireAll_request_cons, run_run_bind_of_error hreq, List.nil_append,
      List.flatMap_singleton]
  | cons j pre ih =>
    obtain ⟨x, hx⟩ := Option.isSome_iff_exists.mp (hpre j List.mem_cons_self)
    rw [List.cons_append, requireAll_request_cons,
      run_run_bind_of_ok (fs.require_run_of_served hx qs),
      run_run_bind_of_error (ih (fun k hk => hpre k (List.mem_cons_of_mem j hk)) _),
      List.cons_append, List.flatMap_cons, List.append_assoc]

/-- Asking for optional rows has those served, after one request of each row's factory. -/
theorem optionalAll_run (is : List Interface) (qs : List Query) :
  (fs.optionalAll (is.map Interface.request)).run qs =
    (fs.objectsOf is, qs ++ is.flatMap fs.asked)
  := by
  induction is generalizing qs with
  | nil => rw [List.map_nil, optionalAll, List.flatMap_nil, List.append_nil]; rfl
  | cons i is ih =>
    rw [optionalAll_request_cons, run_bind_of_run (fs.optional_run i qs), run_bind_of_run (ih _),
      List.flatMap_cons, ← List.append_assoc]
    cases hi : fs.served i with
    | none =>
      rw [objectsOf_cons_of_not_served hi]
      rfl
    | some x =>
      rw [objectsOf_cons_of_served hi]
      rfl

/-! ### The table -/

/-- A load that meets a required row it cannot have fails with that row's error, having asked
for the rows before it and for it, and for nothing after. -/
theorem load_run_of_failure {pre post : List Interface} {i : Interface} {e : InterfaceError}
    (hsplit : Interface.requiredOnes = pre ++ i :: post) (hpre : ∀ j ∈ pre, (fs.served j).isSome)
    (hi : fs.lookup i = .error e) (qs : List Query) :
  fs.load.run.run qs = (.error e, qs ++ (pre ++ [i]).flatMap fs.asked)
  := by
  rw [load, loaderRequired_eq, hsplit, run_run_bind_of_error (fs.requireAll_run_of_failure hpre hi qs)]

/-- A load whose required rows are all served has every served row, after asking each row's
factory once. -/
theorem load_run_of_served (h : ∀ i ∈ Interface.requiredOnes, (fs.served i).isSome)
    (qs : List Query) :
  fs.load.run.run qs =
    (.ok ⟨fs.objectsOf (Interface.requiredOnes ++ Interface.optionalOnes)⟩,
      qs ++ (Interface.requiredOnes ++ Interface.optionalOnes).flatMap fs.asked)
  := by
  rw [load, loaderRequired_eq, loaderOptional_eq, run_run_bind_of_ok (fs.requireAll_run_of_served h qs)]
  rw [run_run_bind, run_run_liftM, fs.optionalAll_run]
  simp only [run_run_pure, objectsOf, List.filterMap_append, List.flatMap_append,
    List.append_assoc]

/-- A load fails exactly at the first required row that cannot be had. -/
theorem load_run_eq_error_iff (e : InterfaceError) (qs qs' : List Query) :
  fs.load.run.run qs = (.error e, qs') ↔
    ∃ pre i post, Interface.requiredOnes = pre ++ i :: post ∧
      (∀ j ∈ pre, (fs.served j).isSome) ∧ fs.lookup i = .error e ∧
      qs' = qs ++ (pre ++ [i]).flatMap fs.asked
  := by
  constructor
  · intro h
    cases hfind : Interface.requiredOnes.find? (fun i => (fs.served i).isNone) with
    | none =>
      have hall : ∀ i ∈ Interface.requiredOnes, (fs.served i).isSome := by
        intro i hi
        have := List.find?_eq_none.mp hfind i hi
        exact Option.isSome_iff_ne_none.mpr (by simpa using this)
      rw [fs.load_run_of_served hall] at h
      cases h
    | some i =>
      obtain ⟨hnone, pre, post, hsplit, hpre⟩ := List.find?_eq_some_iff_append.mp hfind
      have hpre' : ∀ j ∈ pre, (fs.served j).isSome := by
        intro j hj
        simpa using hpre j hj
      obtain ⟨e', he'⟩ : ∃ e', fs.lookup i = .error e' := by
        cases hl : fs.lookup i with
        | error e' => exact ⟨e', rfl⟩
        | ok x =>
          rw [fs.lookup_eq_ok_iff] at hl
          simp [hl] at hnone
      rw [fs.load_run_of_failure hsplit hpre' he'] at h
      obtain ⟨he, hqs⟩ := Prod.mk.inj h
      obtain rfl := Except.error.inj he
      exact ⟨pre, i, post, hsplit, hpre', he', hqs.symm⟩
  · rintro ⟨pre, i, post, hsplit, hpre, hi, rfl⟩
    exact fs.load_run_of_failure hsplit hpre hi qs

theorem mem_of_mem_objectsOf {is : List Interface} {p : Interface × ι}
    (hp : p ∈ fs.objectsOf is) : p.1 ∈ is
  := by
  obtain ⟨i, hi, x, -, rfl⟩ : ∃ i ∈ is, ∃ x, fs.served i = some x ∧ (i, x) = p := by
    simpa [objectsOf] using hp
  exact hi

/-- The optional interfaces a set holds are those it holds of the optional rows. -/
theorem optionalCount_objectsOf :
  (InterfaceSet.mk (fs.objectsOf (Interface.requiredOnes ++ Interface.optionalOnes))).optionalCount =
    (Interface.optionalOnes.filter fun i => (fs.served i).isSome).length
  := by
  have hreq : (fs.objectsOf Interface.requiredOnes).filter (!·.1.required) = [] := by
    rw [List.filter_eq_nil_iff]
    intro p hp
    simpa using (List.mem_filter.mp (fs.mem_of_mem_objectsOf hp)).2
  have hopt : (fs.objectsOf Interface.optionalOnes).filter (!·.1.required) =
      fs.objectsOf Interface.optionalOnes := by
    rw [List.filter_eq_self]
    intro p hp
    simpa using (List.mem_filter.mp (fs.mem_of_mem_objectsOf hp)).2
  simp only [InterfaceSet.optionalCount, objectsOf, List.filterMap_append, List.filter_append]
  rw [show Interface.requiredOnes.filterMap _ = fs.objectsOf Interface.requiredOnes from rfl,
    show Interface.optionalOnes.filterMap _ = fs.objectsOf Interface.optionalOnes from rfl, hreq,
    hopt, List.nil_append, objectsOf, List.length_filterMap_eq_countP, List.countP_eq_length_filter]
  simp

/-- Loading the table fails exactly at the first required interface that cannot be had.  The
required rows are those of the engine client, the client library, the entity list, the model
information and the console variables, asked for in this order, and fifteen rows are optional.
A load fails with error `e` exactly when a required row's lookup fails with `e` and every row
before it is had, and then it has asked the factories of those rows and of this one, and none
after.  When every required row is had, the load succeeds after asking the factory of every row
that has one: it holds each required row's object, each optional row's object exactly when that
row's module has a factory that serves it, and counts as many optional interfaces as it holds.  A
factory is never asked for version bytes that are not bytes other than NUL followed by one NUL,
and those are exactly the bytes refused as an invalid version. -/
theorem load_fails_at_first_missing_required (fs : ModuleFactories ι) :
  Interface.requiredOnes.map (fun i => (i.module, i.version)) =
    [("engine", "VEngineClient014"), ("client", "VClient017"), ("client", "VClientEntityList003"),
      ("engine", "VModelInfoClient006"), ("vstdlib", "VEngineCvar004")] ∧
  Interface.optionalOnes.length = 15 ∧
  (∀ e qs, fs.load.run.run [] = (.error e, qs) ↔
    ∃ pre i post, Interface.requiredOnes = pre ++ i :: post ∧
      (∀ j ∈ pre, ∃ x, fs.lookup j = .ok x) ∧ fs.lookup i = .error e ∧
      qs = (pre ++ [i]).flatMap fs.asked) ∧
  ((∀ i ∈ Interface.requiredOnes, ∃ x, fs.lookup i = .ok x) →
    ∃ s, fs.load.run.run [] =
        (.ok s, (Interface.requiredOnes ++ Interface.optionalOnes).flatMap fs.asked) ∧
      (∀ i ∈ Interface.requiredOnes, s.get? i = (fs.lookup i).toOption) ∧
      (∀ i ∈ Interface.optionalOnes, s.get? i = fs.served i) ∧
      s.optionalCount = (Interface.optionalOnes.filter s.has).length) ∧
  (∀ (f : Factory ι) (v : List UInt8) (qs : List Query),
    (∃ t, (f.get v).run.run qs = (.error (.invalidVersionString t), qs)) ↔
      ¬ ∃ w, (∀ b ∈ w, b ≠ 0) ∧ v = w ++ [0])
  := by
  refine ⟨by decide, by decide, fun e qs => ?_, fun h => ?_, Factory.get_invalid_iff⟩
  · rw [fs.load_run_eq_error_iff]
    simp only [fs.exists_lookup_eq_ok_iff, List.nil_append]
  · have hserved : ∀ i ∈ Interface.requiredOnes, (fs.served i).isSome :=
      fun i hi => (fs.exists_lookup_eq_ok_iff i).mp (h i hi)
    refine ⟨_, by rw [fs.load_run_of_served hserved, List.nil_append], fun i _ => ?_,
      fun i _ => ?_, ?_⟩
    · rw [fs.lookup_toOption]
      exact fs.lookup_objectsOf_table i
    · exact fs.lookup_objectsOf_table i
    · rw [fs.optionalCount_objectsOf]
      congr 1
      apply List.filter_congr
      intro i _
      simp only [InterfaceSet.has, InterfaceSet.get?, fs.lookup_objectsOf_table]

end ModuleFactories

end EngineSdk
