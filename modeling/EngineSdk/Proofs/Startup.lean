import Mathlib
import EngineSdk.Session.Startup
import EngineSdk.Proofs.Utf8
import EngineSdk.Proofs.Resolution

/-!
# Starting the SDK

`Run.sdkInitWith r g supplied` gathers a factory for every module of the interface table, requests
every interface through them to initialize the engine, and then requests every table row once
more to record the SDK's objects.  Both requests go through the same factories, and a factory
answers a version by a function of the version alone, so the two agree.

* `ModuleResolver.collect` keeps the supplied factory of a module when there is one and otherwise
  the resolver's export, filed under that module (`collect_get`); it asks the resolver only for
  modules the supplied factories lack, and for every one of those (`collect_asked`).
* A request of a table row answers the object its module's factory serves for the row's version
  (`ModuleFactories.served`): `ModuleFactories.load` so for every interface, and it fails exactly
  when a required one is not served (`load_ok`, `load_ok_of_served`); `recordInterfaces` so for
  every row (`recordInterfaces_run`).
* Each step of a start says what it changes (`loading_run`, `initEngine_run`,
  `bindGlobalVars_run`, ...), and one walk through the start from these (`sdkInitWith_contract`)
  shows it keeps `StartContract`: one that succeeds leaves the engine's objects and the SDK's
  record equal, interface by interface; one that answers an error changes neither the engine nor
  the SDK; and from a session where neither is set, a start succeeds whenever its factories
  serve the required interfaces and its signatures are located without a panic.
-/

namespace EngineSdk

/-- Every version of the table is passed as its text followed by its only NUL. -/
theorem versionText?_versionBytes (i : Interface) : versionText? i.versionBytes = some i.version := by
  cases i <;> decide +kernel

theorem mem_all (i : Interface) : i ∈ Interface.all := by
  cases i <;> decide

theorem mem_requiredOnes_append_optionalOnes (i : Interface) :
  i ∈ Interface.requiredOnes ++ Interface.optionalOnes
  := by
  cases i <;> decide

theorem mem_requiredOnes_of_required {i : Interface} (h : i.required = true) :
  i ∈ Interface.requiredOnes
  :=
  List.mem_filter.mpr ⟨mem_all i, h⟩

@[simp] theorem Interface.request_slot (i : Interface) : i.request.slot = i := rfl

@[simp] theorem Interface.request_module (i : Interface) : i.request.module = i.module := rfl

@[simp] theorem Interface.request_versionBytes (i : Interface) :
  i.request.versionBytes = i.versionBytes
  := rfl

/-- The loader asks for the table's required rows, in table order. -/
theorem loaderRequired_eq : loaderRequired = Interface.requiredOnes.map Interface.request := by
  decide

/-- The loader asks for the table's optional rows, in table order. -/
theorem loaderOptional_eq : loaderOptional = Interface.optionalOnes.map Interface.request := by
  decide

/-! ### Running a computation that may fail over a state -/

section Run

variable {ε σ α β : Type}

theorem run_run_bind (x : ExceptT ε (StateM σ) α) (f : α → ExceptT ε (StateM σ) β) (s : σ) :
    (x >>= f).run.run s =
      match x.run.run s with
      | (.ok a, s') => (f a).run.run s'
      | (.error e, s') => (.error e, s') := by
  simp only [ExceptT.run_bind, StateT.run_bind]
  rcases x.run.run s with ⟨_ | _, _⟩ <;> rfl

@[simp] theorem run_run_pure (a : α) (s : σ) :
  (pure a : ExceptT ε (StateM σ) α).run.run s = (.ok a, s)
  := rfl

theorem run_run_tryCatch (x : ExceptT ε (StateM σ) α) (h : ε → ExceptT ε (StateM σ) α) (s : σ) :
    (tryCatch x h).run.run s =
      match x.run.run s with
      | (.ok a, s') => (.ok a, s')
      | (.error e, s') => (h e).run.run s' := by
  rw [ExceptT.run_tryCatch, StateT.run_bind]
  rcases x.run.run s with ⟨_ | _, _⟩ <;> rfl

end Run

/-! ### Factories by module -/

namespace ModuleFactories

variable {ι : Type}

/-- The object a module's factory serves for an interface's version, when there is one. -/
def served (fs : ModuleFactories ι) (i : Interface) : Option ι :=
  (fs.get? i.module).bind fun f => (f.offer i.version).object

/-- A module's factory after an insertion is the inserted one, when it is that module's. -/
theorem get?_insert (fs : ModuleFactories ι) (f : Factory ι) (m : String) :
  (fs.insert f).get? m = if f.module = m then some f else fs.get? m
  := by
  unfold insert get?
  rw [List.find?_append, List.find?_filter]
  by_cases hm : f.module = m
  · have hnone : fs.factories.find?
        (fun a => decide ((a.module != f.module) = true ∧ (a.module == m) = true)) = none := by
      rw [List.find?_eq_none]
      intro x _
      simp [hm]
    rw [hnone, Option.none_or, List.find?_singleton]
    simp [hm]
  · have hsame : fs.factories.find?
        (fun a => decide ((a.module != f.module) = true ∧ (a.module == m) = true)) =
        fs.factories.find? (·.module == m) := by
      apply List.find?_congr
      intro x _
      by_cases hx : x.module = m
      · simp [hx, Ne.symm hm]
      · simp [hx]
    rw [hsame, List.find?_singleton]
    simp [hm]

end ModuleFactories

/-! ### Gathering factories -/

namespace ModuleResolver

variable {ι : Type} (r : ModuleResolver ι) (supplied : ModuleFactories ι)

/-- The factory a module should get: the supplied one, else the resolver's export filed under the
module. -/
def chosen (m : String) : Option (Factory ι) :=
  (supplied.get? m).or ((r.createInterface m).map fun f => { f with module := m })

/-- After the table rows of the modules `done`: each of those modules has its chosen factory and
every other module its supplied one; the resolver was asked only for modules the supplied
factories lack, and for each of those in `done`. -/
structure Collected (done : List String) (fs : ModuleFactories ι) (asked : List String) : Prop where
  get : ∀ m, fs.get? m = if m ∈ done then r.chosen supplied m else supplied.get? m
  asked_uncovered : ∀ m ∈ asked, supplied.get? m = none
  asked_mem : ∀ m ∈ done, supplied.get? m = none → m ∈ asked

variable {r supplied}

theorem collected_nil : r.Collected supplied [] supplied [] where
  get m := by simp
  asked_uncovered m := by simp
  asked_mem m := by simp

/-- One row's step: a module that has a factory keeps it and nothing is asked; otherwise the
resolver is asked, and its export, if any, is filed under the module. -/
theorem collectStep_run (fs : ModuleFactories ι) (i : Interface) (asked : List String) :
    (r.collectStep fs i).run asked =
      match fs.get? i.module with
      | some _ => (fs, asked)
      | none => (((r.createInterface i.module).map fun f => fs.insert { f with module := i.module }).getD fs,
          asked ++ [i.module]) := by
  unfold collectStep
  rcases fs.get? i.module with _ | _ <;> rcases r.createInterface i.module with _ | _ <;> rfl

/-- One row keeps the gathering on track. -/
theorem Collected.step {done : List String} {fs : ModuleFactories ι} {asked : List String}
    (c : r.Collected supplied done fs asked) (i : Interface) :
  r.Collected supplied (done ++ [i.module]) ((r.collectStep fs i).run asked).1
    ((r.collectStep fs i).run asked).2
  := by
  have hmem : ∀ m, m ∈ done ++ [i.module] ↔ m ∈ done ∨ m = i.module := by simp
  have hother : ∀ m, m ≠ i.module →
      fs.get? m = if m ∈ done ++ [i.module] then r.chosen supplied m else supplied.get? m := by
    intro m hmi
    rw [c.get m]
    exact if_congr (by simp [hmi]) rfl rfl
  have hget := c.get i.module
  rw [collectStep_run]
  cases hfs : fs.get? i.module with
  | some f₀ =>
    refine ⟨fun m => ?_, c.asked_uncovered, fun m hm hnone => ?_⟩
    · by_cases hmi : m = i.module
      · subst hmi
        rw [hfs, if_pos (by simp)]
        rw [hfs] at hget
        split_ifs at hget with hd
        · exact hget
        · rw [chosen, ← hget, Option.some_or]
      · exact hother m hmi
    · rcases (hmem m).mp hm with hd | rfl
      · exact c.asked_mem m hd hnone
      · rw [hfs] at hget
        split_ifs at hget with hd
        · exact c.asked_mem _ hd hnone
        · rw [hnone] at hget
          cases hget
  | none =>
    rw [hfs] at hget
    have hsup : supplied.get? i.module = none := by
      split_ifs at hget with hd
      · exact (Option.or_eq_none_iff.mp hget.symm).1
      · exact hget.symm
    refine ⟨fun m => ?_, fun m hm => ?_, fun m hm hnone => ?_⟩
    · by_cases hmi : m = i.module
      · subst hmi
        rw [if_pos (by simp)]
        cases hc : r.createInterface i.module with
        | none => simp [chosen, hsup, hc, hfs]
        | some f => simp [chosen, hsup, hc, ModuleFactories.get?_insert]
      · cases hc : r.createInterface i.module with
        | none => exact hother m hmi
        | some f =>
          simp only [Option.map_some, Option.getD_some]
          rw [ModuleFactories.get?_insert, if_neg (Ne.symm hmi)]
          exact hother m hmi
    · rcases List.mem_append.mp hm with hm | hm
      · exact c.asked_uncovered m hm
      · rw [List.mem_singleton.mp hm]
        exact hsup
    · rcases (hmem m).mp hm with hd | rfl
      · exact List.mem_append_left _ (c.asked_mem m hd hnone)
      · exact List.mem_append_right _ (List.mem_singleton_self _)

/-- Gathering over more rows keeps the gathering on track. -/
theorem Collected.foldlM {done : List String} {fs : ModuleFactories ι} {asked : List String}
    (c : r.Collected supplied done fs asked) (rows : List Interface) :
  r.Collected supplied (done ++ rows.map (·.module)) ((rows.foldlM r.collectStep fs).run asked).1
    ((rows.foldlM r.collectStep fs).run asked).2
  := by
  induction rows generalizing done fs asked with
  | nil =>
    rw [List.map_nil, List.append_nil]
    exact c
  | cons i rows ih =>
    have h := ih (c.step i)
    rw [List.append_assoc] at h
    exact h

variable (r supplied)

/-- Every table module gets its chosen factory. -/
theorem collect_get (i : Interface) :
  ((r.collect supplied).run []).1.get? i.module = r.chosen supplied i.module
  := by
  have c := (collected_nil : r.Collected supplied [] supplied []).foldlM Interface.all
  have hi : i.module ∈ [] ++ Interface.all.map (·.module) := by simpa using ⟨i, mem_all i, rfl⟩
  exact (c.get i.module).trans (if_pos hi)

/-- The resolver is asked only for modules the supplied factories lack, and for each of those. -/
theorem collect_asked :
    (∀ m ∈ ((r.collect supplied).run []).2, supplied.get? m = none) ∧
      ∀ i : Interface, supplied.get? i.module = none → i.module ∈ ((r.collect supplied).run []).2
  := by
  have c := (collected_nil : r.Collected supplied [] supplied []).foldlM Interface.all
  exact ⟨c.asked_uncovered, fun i hi => c.asked_mem _ (by simpa using ⟨i, mem_all i, rfl⟩) hi⟩

end ModuleResolver

/-! ### Requesting interfaces -/

section Loading

variable {ι : Type}

@[simp] theorem run_run_throw {ε σ α : Type} (e : ε) (s : σ) :
  (throw e : ExceptT ε (StateM σ) α).run.run s = (.error e, s)
  := rfl

@[simp] theorem run_run_modify {ε σ : Type} (g : σ → σ) (s : σ) :
  (modify g : ExceptT ε (StateM σ) PUnit).run.run s = (.ok ⟨⟩, g s)
  := rfl

/-- A factory asked for a table row's version answers the object it serves for it. -/
theorem Factory.get_versionBytes (f : Factory ι) (i : Interface) (qs : List Query) :
  ((f.get i.versionBytes).run.run qs).1.toOption = (f.offer i.version).object
  := by
  unfold Factory.get
  rw [versionText?_versionBytes]
  simp only [run_run_bind, run_run_modify]
  cases (f.offer i.version).object <;> rfl

namespace ModuleFactories

/-- A required table row is had exactly when its module's factory serves it. -/
theorem require_versionBytes (fs : ModuleFactories ι) (i : Interface) (qs : List Query) :
  ((fs.require i.module i.versionBytes).run.run qs).1.toOption = fs.served i
  := by
  unfold require served
  cases fs.get? i.module with
  | none => rfl
  | some f => exact Factory.get_versionBytes f i qs

/-- An optional table row is had exactly when its module's factory serves it. -/
theorem optional_versionBytes (fs : ModuleFactories ι) (i : Interface) (qs : List Query) :
  ((fs.optional i.module i.versionBytes).run qs).1 = fs.served i
  := by
  unfold optional served
  cases fs.get? i.module with
  | none => rfl
  | some f =>
    have h := Factory.get_versionBytes f i qs
    simp only [Option.bind_some, StateT.run_bind]
    revert h
    rcases (f.get i.versionBytes).run.run qs with ⟨_ | x, qs'⟩ <;> intro h <;> exact h

/-- Requiring the rows `i :: is` requires `i`, then the others. -/
theorem requireAll_request_cons (fs : ModuleFactories ι) (i : Interface) (is : List Interface) :
  fs.requireAll ((i :: is).map Interface.request) = (do
    let x ← fs.require i.module i.versionBytes
    let rest ← fs.requireAll (is.map Interface.request)
    pure ((i, x) :: rest))
  := rfl

/-- Asking for the optional rows `i :: is` asks for `i`, then for the others. -/
theorem optionalAll_request_cons (fs : ModuleFactories ι) (i : Interface) (is : List Interface) :
  fs.optionalAll ((i :: is).map Interface.request) = (do
    let x ← fs.optional i.module i.versionBytes
    let rest ← fs.optionalAll (is.map Interface.request)
    pure (match x with
      | some x => (i, x) :: rest
      | none => rest))
  := rfl

/-- The rows of `is` that are served, each with its object. -/
def objectsOf (fs : ModuleFactories ι) (is : List Interface) : List (Interface × ι) :=
  is.filterMap fun i => (fs.served i).map (i, ·)

theorem lookup_objectsOf (fs : ModuleFactories ι) (is : List Interface) (i : Interface) :
  (fs.objectsOf is).lookup i = if i ∈ is then fs.served i else none
  :=
  Gamedata.lookup_filterMap is fs.served i

theorem objectsOf_cons_of_served {fs : ModuleFactories ι} {i : Interface} {x : ι}
    (h : fs.served i = some x) (is : List Interface) :
  fs.objectsOf (i :: is) = (i, x) :: fs.objectsOf is
  := by
  simp [objectsOf, h]

theorem objectsOf_cons_of_not_served {fs : ModuleFactories ι} {i : Interface}
    (h : fs.served i = none) (is : List Interface) :
  fs.objectsOf (i :: is) = fs.objectsOf is
  := by
  simp [objectsOf, h]

/-- Requiring rows has every one of them, each with its served object, exactly when every row is
served. -/
theorem requireAll_toOption (fs : ModuleFactories ι) (is : List Interface) (qs : List Query) :
  ((fs.requireAll (is.map Interface.request)).run.run qs).1.toOption =
    if ∀ i ∈ is, (fs.served i).isSome then some (fs.objectsOf is) else none
  := by
  induction is generalizing qs with
  | nil =>
    rw [if_pos (by simp)]
    rfl
  | cons i is ih =>
    have hreq := fs.require_versionBytes i qs
    simp only [requireAll_request_cons, run_run_bind]
    revert hreq
    rcases (fs.require i.module i.versionBytes).run.run qs with ⟨_ | x, qs₁⟩ <;> intro hreq
    · rw [if_neg]
      · rfl
      · intro hall
        have := hall i List.mem_cons_self
        rw [← hreq] at this
        cases this
    · dsimp only
      have ih₁ := ih qs₁
      revert ih₁
      rcases (fs.requireAll (is.map Interface.request)).run.run qs₁ with ⟨_ | rest, qs₂⟩ <;>
        intro ih₁
      · rw [if_neg]
        · rfl
        · intro hall
          rw [if_pos fun j hj => hall j (List.mem_cons_of_mem i hj)] at ih₁
          cases ih₁
      · split_ifs at ih₁ with hall
        · have hx : fs.served i = some x := hreq.symm
          rw [if_pos (List.forall_mem_cons.mpr ⟨by simp [hx], hall⟩),
            objectsOf_cons_of_served hx, ← Option.some_inj.mp ih₁]
          rfl
        · cases ih₁

/-- Asking for optional rows has the served ones, each with its object. -/
theorem optionalAll_versionBytes (fs : ModuleFactories ι) (is : List Interface) (qs : List Query) :
  ((fs.optionalAll (is.map Interface.request)).run qs).1 = fs.objectsOf is
  := by
  induction is generalizing qs with
  | nil => rfl
  | cons i is ih =>
    have hopt := fs.optional_versionBytes i qs
    simp only [optionalAll_request_cons, StateT.run_bind]
    revert hopt
    rcases (fs.optional i.module i.versionBytes).run qs with ⟨_ | x, qs₁⟩ <;> intro hopt
    · have := ih qs₁
      simp only [objectsOf, List.filterMap_cons, ← hopt, Option.map_none] at this ⊢
      exact this
    · have := ih qs₁
      simp only [objectsOf, List.filterMap_cons, ← hopt, Option.map_some] at this ⊢
      rw [← this]
      rfl

@[simp] theorem run_run_liftM {ε σ α : Type} (x : StateM σ α) (s : σ) :
  (liftM x : ExceptT ε (StateM σ) α).run.run s = (.ok (x.run s).1, (x.run s).2)
  := rfl

/-- Requesting the table has every served interface with its object, exactly when every required
one is served. -/
theorem load_toOption (fs : ModuleFactories ι) (qs : List Query) :
  (fs.load.run.run qs).1.toOption =
    if ∀ i ∈ Interface.requiredOnes, (fs.served i).isSome then
      some ⟨fs.objectsOf (Interface.requiredOnes ++ Interface.optionalOnes)⟩
    else none
  := by
  have hreq := fs.requireAll_toOption Interface.requiredOnes qs
  simp only [load, loaderRequired_eq, loaderOptional_eq]
  rw [run_run_bind]
  revert hreq
  rcases (fs.requireAll (Interface.requiredOnes.map Interface.request)).run.run qs with
    ⟨_ | req, qs₁⟩ <;> intro hreq
  · split_ifs at hreq ⊢ with hall
    · cases hreq
    · rfl
  · split_ifs at hreq ⊢ with hall
    · have hopt := fs.optionalAll_versionBytes Interface.optionalOnes qs₁
      dsimp only
      rw [run_run_bind, run_run_liftM]
      dsimp only
      obtain rfl : req = fs.objectsOf Interface.requiredOnes := Option.some_inj.mp hreq
      rw [hopt]
      simp only [objectsOf, List.filterMap_append]
      rfl
    · cases hreq

/-- A request of the table that succeeds had every required interface, and has every served
interface with its object. -/
theorem load_ok {fs : ModuleFactories ι} {qs : List Query} {set : InterfaceSet ι}
    (h : (fs.load.run.run qs).1 = .ok set) :
  (∀ i ∈ Interface.requiredOnes, (fs.served i).isSome) ∧
    set = ⟨fs.objectsOf (Interface.requiredOnes ++ Interface.optionalOnes)⟩
  := by
  have hload := fs.load_toOption qs
  rw [h] at hload
  split_ifs at hload with hall
  · exact ⟨hall, Option.some_inj.mp hload⟩
  · cases hload

/-- A request of the table succeeds when every required interface is served. -/
theorem load_ok_of_served {fs : ModuleFactories ι} (qs : List Query)
    (h : ∀ i ∈ Interface.requiredOnes, (fs.served i).isSome) :
  ∃ set, (fs.load.run.run qs).1 = .ok set
  := by
  have hload := fs.load_toOption qs
  rw [if_pos h] at hload
  cases hres : (fs.load.run.run qs).1 with
  | error e =>
    rw [hres] at hload
    cases hload
  | ok set => exact ⟨set, rfl⟩

/-- The second request, over the whole table, has the served object of every interface. -/
theorem lookup_objectsOf_all (fs : ModuleFactories ι) (i : Interface) :
  (fs.objectsOf Interface.all).lookup i = fs.served i
  := by
  rw [lookup_objectsOf, if_pos (mem_all i)]

/-- The first request, of the required interfaces and then the optional ones, has the served
object of every interface. -/
theorem lookup_objectsOf_table (fs : ModuleFactories ι) (i : Interface) :
  (fs.objectsOf (Interface.requiredOnes ++ Interface.optionalOnes)).lookup i = fs.served i
  := by
  rw [lookup_objectsOf, if_pos (mem_requiredOnes_append_optionalOnes i)]

end ModuleFactories

end Loading

/-! ### What the steps of a start change -/

namespace Run

@[simp] theorem run_run_get {ε σ : Type} (s : σ) :
  (get : ExceptT ε (StateM σ) σ).run.run s = (.ok s, s)
  := rfl

/-- A request changes only the stand-in engine, which remembers it, and answers what the
request answers. -/
theorem loading_run {α : Type} (l : Loading α) (s : Session) :
  ∃ w, (loading l).run.run s = (.ok (l.run.run []).1, { s with world := w })
  :=
  ⟨_, rfl⟩

theorem vfuncIndex_run (key : String) (d : Nat) (s : Session) :
  ∃ n, (vfuncIndex key d).run.run s = (.ok n, s)
  := by
  unfold vfuncIndex
  rw [run_run_bind, run_run_get]
  dsimp only
  split
  · split <;> exact ⟨_, rfl⟩
  · exact ⟨_, rfl⟩

theorem methodFor_run (p : StandIn.Ptr) (key : String) (d : Nat) (s : Session) :
  ∃ m, (methodFor p key d).run.run s = (.ok m, s)
  := by
  unfold methodFor
  split
  · exact ⟨_, rfl⟩
  · obtain ⟨n, hn⟩ := vfuncIndex_run key d s
    rw [run_run_bind, hn]
    exact ⟨_, rfl⟩

/-- A method call never panics and changes only the stand-in engine. -/
theorem call_run (p : StandIn.Ptr) (key : String) (d : Nat) (args : List StandIn.Arg) (s : Session) :
  ∃ o w, (call p key d args).run.run s = (.ok o, { s with world := w })
  := by
  obtain ⟨m, hm⟩ := methodFor_run p key d s
  unfold call
  rw [run_run_bind, hm]
  dsimp only
  split
  · exact ⟨_, _, rfl⟩
  · exact ⟨_, s.world, rfl⟩

/-- Binding the global variables never panics, and keeps the SDK and the engine's objects: only
the engine's global variables pointer and the stand-in engine may change. -/
theorem bindGlobalVars_run (s : Session) :
  ∃ b s', bindGlobalVars.run.run s = (.ok b, s') ∧ s'.sdk = s.sdk ∧
    s'.engine.map (·.objects) = s.engine.map (·.objects)
  := by
  have hpim : (service? .playerInfoManager).run.run s =
      (.ok (s.engine.bind (·.object? .playerInfoManager)), s) := rfl
  unfold bindGlobalVars
  rw [run_run_bind, hpim]
  dsimp only
  split
  · exact ⟨_, _, rfl, rfl, rfl⟩
  · rename_i pim _
    obtain ⟨o, w, ho⟩ := call_run pim "IPlayerInfoManager::GetGlobalVars" 1 [] s
    rw [run_run_bind, ho]
    dsimp only
    split
    · exact ⟨_, _, rfl, rfl, rfl⟩
    · split
      · exact ⟨_, _, rfl, rfl, rfl⟩
      · refine ⟨_, _, rfl, rfl, ?_⟩
        cases s.engine <;> rfl

/-- Requesting a row once more answers the row with the object its module's factory serves. -/
theorem recordRow_run (fs : ModuleFactories StandIn.Ptr) (i : Interface) (s : Session) :
  ∃ w, (recordRow fs i).run.run s = (.ok ((fs.served i).map (i, ·)), { s with world := w })
  := by
  unfold recordRow
  cases hf : fs.get? i.module with
  | none =>
    refine ⟨s.world, ?_⟩
    simp only [ModuleFactories.served, hf, Option.bind_none, Option.map_none]
    rfl
  | some f =>
    obtain ⟨w, hw⟩ := loading_run (f.get i.versionBytes) s
    have hget := Factory.get_versionBytes f i []
    have hserved : fs.served i = (f.offer i.version).object := by
      simp [ModuleFactories.served, hf]
    refine ⟨w, ?_⟩
    dsimp only
    rw [run_run_bind, hw, hserved, ← hget]
    cases ((f.get i.versionBytes).run.run []).1 <;> rfl

/-- Requesting rows once more records the served ones, each with its object. -/
theorem filterMapM_recordRow_run (fs : ModuleFactories StandIn.Ptr) (is : List Interface) (s : Session) :
  ∃ w, (is.filterMapM (recordRow fs)).run.run s = (.ok (fs.objectsOf is), { s with world := w })
  := by
  induction is generalizing s with
  | nil => exact ⟨s.world, rfl⟩
  | cons i is ih =>
    obtain ⟨w, hw⟩ := recordRow_run fs i s
    obtain ⟨w', hw'⟩ := ih { s with world := w }
    rw [List.filterMapM_cons, run_run_bind, hw]
    cases hi : fs.served i with
    | none =>
      refine ⟨w', ?_⟩
      simp only [Option.map_none]
      rw [hw', ModuleFactories.objectsOf_cons_of_not_served hi]
    | some x =>
      refine ⟨w', ?_⟩
      simp only [Option.map_some]
      rw [run_run_bind, hw', ModuleFactories.objectsOf_cons_of_served hi]
      rfl

theorem recordInterfaces_run (fs : ModuleFactories StandIn.Ptr) (s : Session) :
  ∃ w, (recordInterfaces fs).run.run s =
    (.ok (fs.objectsOf Interface.all), { s with world := w })
  :=
  filterMapM_recordRow_run fs Interface.all s

theorem initEngine_run (e : EngineGlobals) (s : Session) :
  (initEngine e).run.run s =
    if s.engine.isSome then (.ok (.error .alreadyInitialized), s)
    else (.ok (.ok ()), { s with engine := some e })
  := by
  unfold initEngine
  rw [run_run_bind, run_run_get]
  dsimp only
  split <;> rfl

theorem resolveSignatures_run (r : ModuleResolver StandIn.Ptr) (g : Gamedata) (s : Session) :
    (resolveSignatures r g).run.run s =
      match g.resolveAll r.module with
      | .ok res => (.ok res, s)
      | .error p => (.error p, s) := by
  unfold resolveSignatures
  cases g.resolveAll r.module <;> rfl

/-! ### A start as a whole -/

/-- What a start promises, from the session `s` it starts in, over the factories `fs` it
gathered, to its answer `res` and the session `s'` it leaves. -/
structure StartContract (fs : ModuleFactories StandIn.Ptr) (r : ModuleResolver StandIn.Ptr)
    (g : Gamedata) (s : Session) (res : Except Panic (Except SdkError SdkRecord)) (s' : Session) :
    Prop where
  /-- A start that succeeds has set the engine and the SDK, and both have the same object for
  every interface, with one for every required interface. -/
  ok : ∀ rec, res = .ok (.ok rec) → ∃ e, s'.engine = some e ∧ s'.sdk = some rec ∧
    ∀ i, rec.interfaces.lookup i = e.object? i ∧ (i.required → (e.object? i).isSome)
  /-- A start that answers an error has set neither the engine nor the SDK. -/
  error : ∀ err, res = .ok (.error err) → s'.engine = s.engine ∧ s'.sdk = s.sdk
  /-- From a session where neither is set, a start succeeds when the factories serve every
  required interface and the signatures are located without a panic. -/
  progress : s.engine = none → s.sdk = none → (∀ i ∈ Interface.requiredOnes, (fs.served i).isSome) →
    (∃ found, g.resolveAll r.module = .ok found) → ∃ rec, res = .ok (.ok rec)

namespace StartContract

variable {fs : ModuleFactories StandIn.Ptr} {r : ModuleResolver StandIn.Ptr} {g : Gamedata}
  {s s' : Session}

/-- An error that leaves the engine and the SDK as they were keeps the contract, when the start
could not have succeeded. -/
theorem of_error {err : SdkError} (hengine : s'.engine = s.engine) (hsdk : s'.sdk = s.sdk)
    (hfail : s.engine = none → s.sdk = none → (∀ i ∈ Interface.requiredOnes, (fs.served i).isSome) →
      (∃ found, g.resolveAll r.module = .ok found) → False) :
    StartContract fs r g s (.ok (.error err)) s' where
  ok _ h := by cases h
  error _ _ := ⟨hengine, hsdk⟩
  progress he hs hall hres := (hfail he hs hall hres).elim

/-- A panic of the signature scan keeps the contract. -/
theorem of_panic {p : Panic} (hp : g.resolveAll r.module = .error p) :
    StartContract fs r g s (.error p) s' where
  ok _ h := by cases h
  error _ h := by cases h
  progress _ _ _ hres := by
    obtain ⟨found, hfound⟩ := hres
    rw [hp] at hfound
    cases hfound

/-- A success keeps the contract when the engine has the objects of the first request, whose
required rows were all served, and the record has those of the second. -/
theorem of_ok {rec : SdkRecord} (hall : ∀ i ∈ Interface.requiredOnes, (fs.served i).isSome)
    (hobj : s'.engine.map (·.objects) =
      some (fs.objectsOf (Interface.requiredOnes ++ Interface.optionalOnes)))
    (hsdk : s'.sdk = some rec) (hrec : rec.interfaces = fs.objectsOf Interface.all) :
    StartContract fs r g s (.ok (.ok rec)) s' where
  ok rec' h := by
    cases h
    obtain ⟨e, he, heobj⟩ := Option.map_eq_some_iff.mp hobj
    refine ⟨e, he, hsdk, fun i => ⟨?_, fun hreq => ?_⟩⟩
    · rw [hrec, ModuleFactories.lookup_objectsOf_all, EngineGlobals.object?, heobj,
        ModuleFactories.lookup_objectsOf_table]
    · rw [EngineGlobals.object?, heobj, ModuleFactories.lookup_objectsOf_table]
      exact hall i (mem_requiredOnes_of_required hreq)
  error _ h := nomatch h
  progress _ _ _ _ := ⟨rec, rfl⟩

end StartContract

/-- A start keeps its contract, from every session. -/
theorem sdkInitWith_contract (r : ModuleResolver StandIn.Ptr) (g : Gamedata)
    (supplied : ModuleFactories StandIn.Ptr) (s : Session) :
  StartContract ((r.collect supplied).run []).1 r g s
    ((sdkInitWith r g supplied).run.run s).1 ((sdkInitWith r g supplied).run.run s).2
  := by
  generalize hfs : ((r.collect supplied).run []).1 = fs
  unfold sdkInitWith
  rw [run_run_bind, run_run_get]
  dsimp only
  rw [hfs]
  split_ifs with hsdk
  · exact .of_error rfl rfl fun _ h => by simp [h] at hsdk
  · obtain ⟨w, hw⟩ := loading_run fs.load s
    generalize hs₁ : { s with world := w } = s₁ at hw
    have hengine₁ : s₁.engine = s.engine := by rw [← hs₁]
    have hsdk₁ : s₁.sdk = s.sdk := by rw [← hs₁]
    rw [run_run_bind, hw]
    dsimp only
    cases hload : (fs.load.run.run []).1 with
    | error e =>
      refine .of_error hengine₁ hsdk₁ fun _ _ hall _ => ?_
      obtain ⟨set, hset⟩ := ModuleFactories.load_ok_of_served [] hall
      rw [hload] at hset
      cases hset
    | ok set =>
      obtain ⟨hall, rfl⟩ := ModuleFactories.load_ok hload
      dsimp only
      rw [run_run_bind, initEngine_run]
      by_cases heng : s₁.engine.isSome
      · rw [if_pos heng]
        refine .of_error hengine₁ hsdk₁ fun h _ _ _ => ?_
        rw [hengine₁, h] at heng
        cases heng
      · rw [if_neg heng]
        dsimp only
        generalize hs₂ : { s₁ with engine := some ⟨fs.objectsOf (Interface.requiredOnes ++
          Interface.optionalOnes), none⟩ } = s₂
        obtain ⟨b, s₃, hb, hsdk₃, hobj₃⟩ := bindGlobalVars_run s₂
        rw [run_run_bind, hb]
        dsimp only
        obtain ⟨w₄, hw₄⟩ := recordInterfaces_run fs s₃
        generalize hs₄ : { s₃ with world := w₄ } = s₄ at hw₄
        rw [run_run_bind, hw₄]
        dsimp only
        rw [run_run_bind, resolveSignatures_run]
        cases hres : g.resolveAll r.module with
        | error p => exact .of_panic hres
        | ok found =>
          dsimp only
          rw [run_run_bind, run_run_modify]
          refine .of_ok hall ?_ rfl rfl
          rw [← hs₄]
          exact hobj₃.trans (by rw [← hs₂]; rfl)

/-- A start gathers for every table module the supplied factory, else the resolver's export, and
asks the resolver only for modules the supplied factories lack; and it keeps its contract: when it
succeeds the engine and the SDK have the same object for every interface, an error sets neither,
and from a session where neither is set it succeeds with factories that serve the required
interfaces. -/
theorem sdkInitWith_consistent_and_atomic (r : ModuleResolver StandIn.Ptr) (g : Gamedata)
    (supplied : ModuleFactories StandIn.Ptr) (s : Session) :
  (∀ i : Interface, ((r.collect supplied).run []).1.get? i.module = r.chosen supplied i.module) ∧
    (∀ m ∈ ((r.collect supplied).run []).2, supplied.get? m = none) ∧
    StartContract ((r.collect supplied).run []).1 r g s
      ((sdkInitWith r g supplied).run.run s).1 ((sdkInitWith r g supplied).run.run s).2
  :=
  ⟨r.collect_get supplied, (r.collect_asked supplied).1, sdkInitWith_contract r g supplied s⟩

end Run

end EngineSdk
