import Mathlib
import EngineSdk.Gamedata.Locate

/-!
# Resolving every signature

`Gamedata.resolveAll` walks the signature names in `resolveOrder` (sorted, each once) and asks
for each library's module the first time a name needs it, keeping the answer for the names that
follow.  What becomes of a name is then what would become of it on its own (`outcome`): with no
module loaded it fails with `module <lib> not loaded`; in a loaded module it gets an address, or
fails with the text of the locate error, or the locate stops the whole walk.

The walk keeps one invariant (`Tracks`): after the names `done`, the addresses and failures are
those of `done` read off `outcome` in order, and the modules asked for are the libraries of
`done`, each once, with the answers kept for them.  From it (`Tracks.foldlM_ok`,
`Tracks.foldlM_stops`) follows `resolveAll_partitions`: resolution stops exactly when some
locate stops, and otherwise every name is either resolved or among the failures, which are
sorted, and every library's module is asked for once.
-/

namespace EngineSdk.Gamedata

/-! ### Names in order -/

/-- Each element once: the tail after the head is filtered of it. -/
theorem nodup_eraseDups {α : Type} [BEq α] [LawfulBEq α] : (l : List α) → l.eraseDups.Nodup
  | [] => by simp
  | a :: as => by
    rw [List.eraseDups_cons, List.nodup_cons, List.mem_eraseDups]
    exact ⟨by simp, nodup_eraseDups (as.filter fun b => !b == a)⟩
termination_by l => l.length
decreasing_by exact Nat.lt_succ_of_le (List.length_filter_le _ _)

variable (g : Gamedata)

theorem mem_resolveOrder {n : String} : n ∈ g.resolveOrder ↔ n ∈ g.signatureNames := by
  rw [resolveOrder, List.mem_mergeSort, List.mem_eraseDups]

/-- The names are resolved in strictly increasing order. -/
theorem pairwise_lt_resolveOrder : g.resolveOrder.Pairwise (· < ·) := by
  have hle := @List.pairwise_mergeSort String (fun a b => decide (a ≤ b))
    (fun a b c hab hbc => by simp at *; exact le_trans hab hbc)
    (fun a b => by simpa using le_total a b) g.signatureNames.eraseDups
  have hnd := @List.Nodup.mergeSort String _ (fun a b => decide (a ≤ b))
    (nodup_eraseDups g.signatureNames)
  exact (hle.and hnd).imp fun ⟨h₁, h₂⟩ => lt_of_le_of_ne (by simpa using h₁) h₂

/-! ### One name on its own -/

variable (modules : String → Option ModuleImage)

/-- What becomes of the signature `name` with no memo of modules: its module's name and its
address, the reason it failed, or the stop. -/
def outcome (name : String) : Except Panic (Except String (String × Int)) :=
  match modules (g.libraryOf name) with
  | none => .ok (.error ("module " ++ g.libraryOf name ++ " not loaded"))
  | some m =>
    match g.locate name m.bytes m.bytes.length with
    | .ok off => .ok (.ok (m.name, m.start + off))
    | .error (.error e) => .ok (.error e.message)
    | .error (.panic p) => .error p

/-- The address of `name` on its own, if it gets one. -/
def addressOf (name : String) : Option (String × Int) :=
  match g.outcome modules name with
  | .ok (.ok a) => some a
  | _ => none

/-- The reason `name` fails on its own, if it fails. -/
def reasonOf (name : String) : Option String :=
  match g.outcome modules name with
  | .ok (.error r) => some r
  | _ => none

/-- After the names `done`: the addresses and failures of `done` in order, and the libraries of
`done` asked for once each, with the answers kept. -/
structure Tracks (done : List String) (acc : Resolution × List (String × Option ModuleImage)) :
    Prop where
  addresses : acc.1.addresses = done.filterMap fun n => (g.addressOf modules n).map (n, ·)
  failures : acc.1.failures = done.filterMap fun n => (g.reasonOf modules n).map (n, ·)
  asked_nodup : acc.1.modulesAsked.Nodup
  mem_asked : ∀ l, l ∈ acc.1.modulesAsked ↔ ∃ n ∈ done, g.libraryOf n = l
  known : acc.2 = acc.1.modulesAsked.map fun l => (l, modules l)

/-! ### Lookups -/

theorem lookup_known (asked : List String) (l : String) :
  (asked.map fun l' => (l', modules l')).lookup l =
    if l ∈ asked then some (modules l) else none
  := by
  induction asked with
  | nil => rfl
  | cons a as ih =>
    by_cases h : l = a
    · subst h
      simp
    · have hne : (l == a) = false := by simpa using h
      simp [List.lookup_cons, hne, ih, h]

theorem lookup_filterMap {κ β : Type} [BEq κ] [LawfulBEq κ] (ns : List κ) (f : κ → Option β)
    (n : κ) :
  (ns.filterMap fun m => (f m).map (m, ·)).lookup n = if n ∈ ns then f n else none
  := by
  induction ns with
  | nil => rfl
  | cons a as ih =>
    rcases hf : f a with _ | v
    · by_cases h : n = a
      · subst h
        simp [hf, ih]
      · simp [hf, ih, h]
    · by_cases h : n = a
      · subst h
        simp [hf]
      · have hne : (n == a) = false := by simpa using h
        simp [hf, ih, hne, h, List.lookup_cons]

theorem map_fst_filterMap {β : Type} (ns : List String) (f : String → Option β) :
  (ns.filterMap fun m => (f m).map (m, ·)).map Prod.fst = ns.filter fun m => (f m).isSome
  := by
  induction ns with
  | nil => rfl
  | cons a as ih =>
    rcases hf : f a with _ | v
    · simp [hf, ih]
    · simp [hf, ih]

/-! ### One name's outcome -/

section Outcome

variable {g modules} {n : String}

theorem outcome_eq_error {p : Panic} :
  g.outcome modules n = .error p ↔ ∃ m, modules (g.libraryOf n) = some m ∧
    g.locate n m.bytes m.bytes.length = .error (.panic p)
  := by
  unfold outcome
  rcases modules (g.libraryOf n) with _ | m
  · simp
  · dsimp only
    rcases hl : g.locate n m.bytes m.bytes.length with (e | p') | off <;> simp [hl]

theorem addressOf_eq_some {a : String × Int} :
  g.addressOf modules n = some a ↔ ∃ m off, modules (g.libraryOf n) = some m ∧
    g.locate n m.bytes m.bytes.length = .ok off ∧ a = (m.name, m.start + off)
  := by
  unfold addressOf outcome
  rcases modules (g.libraryOf n) with _ | m
  · simp
  · dsimp only
    rcases hl : g.locate n m.bytes m.bytes.length with (e | p) | off <;> simp [hl, eq_comm]

theorem reasonOf_eq_some {r : String} :
  g.reasonOf modules n = some r ↔
    (modules (g.libraryOf n) = none ∧ r = "module " ++ g.libraryOf n ++ " not loaded") ∨
    ∃ m e, modules (g.libraryOf n) = some m ∧
      g.locate n m.bytes m.bytes.length = .error (.error e) ∧ r = e.message
  := by
  unfold reasonOf outcome
  rcases modules (g.libraryOf n) with _ | m
  · simp [eq_comm]
  · dsimp only
    rcases hl : g.locate n m.bytes m.bytes.length with (e | p) | off <;> simp [hl, eq_comm]

/-- A name that does not stop either gets an address or fails, never both. -/
theorem reasonOf_isSome_iff (hn : ∀ p, g.outcome modules n ≠ .error p) :
  (g.reasonOf modules n).isSome ↔ g.addressOf modules n = none
  := by
  unfold reasonOf addressOf
  rcases hout : g.outcome modules n with p | r | a
  · exact absurd hout (hn p)
  · simp
  · simp

theorem not_addressOf_and_reasonOf :
  ¬((g.addressOf modules n).isSome ∧ (g.reasonOf modules n).isSome)
  := by
  unfold reasonOf addressOf
  rcases g.outcome modules n with p | r | a <;> simp

end Outcome

/-! ### One step of the walk -/

/-- The libraries asked for once `lib` is needed: `lib` is added the first time. -/
def askOnce (asked : List String) (lib : String) : List String :=
  if lib ∈ asked then asked else asked ++ [lib]

/-- A name's outcome recorded: its address or its failure added, with the libraries `asked`. -/
def recordOutcome (res : Resolution) (asked : List String) (name : String) :
    Except String (String × Int) → Resolution
  | .ok a => ⟨res.addresses ++ [(name, a)], res.failures, asked⟩
  | .error r => ⟨res.addresses, res.failures ++ [(name, r)], asked⟩

variable {g modules}

/-- With the known modules those asked for, a step records the name's own outcome, and asks for
its library only the first time. -/
theorem resolveStep_eq {res : Resolution} {known : List (String × Option ModuleImage)}
    (hk : known = res.modulesAsked.map fun l => (l, modules l)) (name : String) :
  g.resolveStep modules (res, known) name =
    (g.outcome modules name).map fun r =>
      let asked := askOnce res.modulesAsked (g.libraryOf name)
      (recordOutcome res asked name r, asked.map fun l => (l, modules l))
  := by
  unfold resolveStep outcome askOnce
  dsimp only
  rw [hk, lookup_known]
  by_cases hlib : g.libraryOf name ∈ res.modulesAsked
  all_goals
    simp only [hlib, if_true, if_false, List.map_append, List.map_cons, List.map_nil]
    rcases modules (g.libraryOf name) with _ | m
    · rfl
    · dsimp only
      rcases g.locate name m.bytes m.bytes.length with (e | p) | off <;> rfl

@[simp] theorem addresses_recordOutcome (res : Resolution) (asked : List String) (name : String)
    (r : Except String (String × Int)) :
  (recordOutcome res asked name r).addresses =
    res.addresses ++ (match r with | .ok a => [(name, a)] | .error _ => [])
  := by
  cases r <;> simp [recordOutcome]

@[simp] theorem failures_recordOutcome (res : Resolution) (asked : List String) (name : String)
    (r : Except String (String × Int)) :
  (recordOutcome res asked name r).failures =
    res.failures ++ (match r with | .ok _ => [] | .error e => [(name, e)])
  := by
  cases r <;> simp [recordOutcome]

@[simp] theorem modulesAsked_recordOutcome (res : Resolution) (asked : List String)
    (name : String) (r : Except String (String × Int)) :
  (recordOutcome res asked name r).modulesAsked = asked
  := by
  cases r <;> rfl

theorem mem_askOnce {asked : List String} {lib l : String} :
  l ∈ askOnce asked lib ↔ l ∈ asked ∨ l = lib
  := by
  unfold askOnce
  split_ifs with h
  · constructor
    · exact Or.inl
    · rintro (hl | rfl)
      · exact hl
      · exact h
  · simp

theorem nodup_askOnce {asked : List String} (h : asked.Nodup) (lib : String) :
  (askOnce asked lib).Nodup
  := by
  unfold askOnce
  split_ifs with hlib
  · exact h
  · exact h.append (List.nodup_singleton lib) (by simpa using hlib)

theorem tracks_nil : g.Tracks modules [] (⟨[], [], []⟩, []) :=
  ⟨rfl, rfl, List.nodup_nil, by simp, rfl⟩

/-- Recording a name's own outcome keeps the invariant, one name further. -/
theorem Tracks.record {done : List String} {res : Resolution}
    {known : List (String × Option ModuleImage)} (h : g.Tracks modules done (res, known))
    {name : String} {r : Except String (String × Int)} (hout : g.outcome modules name = .ok r) :
    g.Tracks modules (done ++ [name])
      (recordOutcome res (askOnce res.modulesAsked (g.libraryOf name)) name r,
        (askOnce res.modulesAsked (g.libraryOf name)).map fun l => (l, modules l)) where
  addresses := by
    rw [addresses_recordOutcome, h.addresses, List.filterMap_append]
    cases r <;> simp [addressOf, hout]
  failures := by
    rw [failures_recordOutcome, h.failures, List.filterMap_append]
    cases r <;> simp [reasonOf, hout]
  asked_nodup := by
    rw [modulesAsked_recordOutcome]
    exact nodup_askOnce h.asked_nodup _
  mem_asked l := by
    rw [modulesAsked_recordOutcome, mem_askOnce, h.mem_asked]
    simp [or_and_right, exists_or, eq_comm]
  known := by
    rw [modulesAsked_recordOutcome]

/-! ### The whole walk -/

/-- A walk over names none of which stops keeps the invariant to its end. -/
theorem Tracks.foldlM_ok {done : List String} {acc : Resolution × List (String × Option ModuleImage)}
    (h : g.Tracks modules done acc) (names : List String)
    (hok : ∀ n ∈ names, ∀ p, g.outcome modules n ≠ .error p) :
  ∃ acc', names.foldlM (g.resolveStep modules) acc = .ok acc' ∧
    g.Tracks modules (done ++ names) acc'
  := by
  induction names generalizing done acc with
  | nil => exact ⟨acc, rfl, by simpa using h⟩
  | cons n ns ih =>
    obtain ⟨res, known⟩ := acc
    rcases hout : g.outcome modules n with p | r
    · exact absurd hout (hok n List.mem_cons_self p)
    · obtain ⟨acc', hfold, htr⟩ :=
        ih (h.record hout) fun n' hn' => hok n' (List.mem_cons_of_mem _ hn')
      refine ⟨acc', ?_, by simpa using htr⟩
      rw [List.foldlM_cons, resolveStep_eq h.known, hout]
      exact hfold

/-- A walk over names one of which stops, stops. -/
theorem Tracks.foldlM_stops {done : List String}
    {acc : Resolution × List (String × Option ModuleImage)} (h : g.Tracks modules done acc)
    {names : List String} {n : String} (hn : n ∈ names) {p : Panic}
    (hp : g.outcome modules n = .error p) :
  ∃ p', names.foldlM (g.resolveStep modules) acc = .error p'
  := by
  induction names generalizing done acc with
  | nil => simp at hn
  | cons n' ns ih =>
    obtain ⟨res, known⟩ := acc
    rcases hout : g.outcome modules n' with p' | r
    · exact ⟨p', by rw [List.foldlM_cons, resolveStep_eq h.known, hout]; rfl⟩
    · have hn' : n ∈ ns := by
        rcases List.mem_cons.1 hn with rfl | hn'
        · rw [hp] at hout
          cases hout
        · exact hn'
      obtain ⟨p'', hfold⟩ := ih (h.record hout) hn'
      exact ⟨p'', by rw [List.foldlM_cons, resolveStep_eq h.known, hout]; exact hfold⟩

/-! ### What the invariant says at the end -/

section Views

variable {ns : List String} {res : Resolution} {known : List (String × Option ModuleImage)}

theorem Tracks.lookup_addresses (h : g.Tracks modules ns (res, known)) (n : String) :
  res.addresses.lookup n = if n ∈ ns then g.addressOf modules n else none
  := by
  rw [h.addresses, lookup_filterMap]

theorem Tracks.lookup_failures (h : g.Tracks modules ns (res, known)) (n : String) :
  res.failures.lookup n = if n ∈ ns then g.reasonOf modules n else none
  := by
  rw [h.failures, lookup_filterMap]

theorem Tracks.names_addresses (h : g.Tracks modules ns (res, known)) :
  res.addresses.map Prod.fst = ns.filter fun n => (g.addressOf modules n).isSome
  := by
  rw [h.addresses, map_fst_filterMap]

theorem Tracks.names_failures (h : g.Tracks modules ns (res, known)) :
  res.failures.map Prod.fst = ns.filter fun n => (g.reasonOf modules n).isSome
  := by
  rw [h.failures, map_fst_filterMap]

end Views

/-- A resolution that does not stop is the walk over all names, none of which stops. -/
theorem tracks_of_resolveAll {res : Resolution} (hres : g.resolveAll modules = .ok res) :
  (∀ n ∈ g.resolveOrder, ∀ p, g.outcome modules n ≠ .error p) ∧
    ∃ known, g.Tracks modules g.resolveOrder (res, known)
  := by
  have hok : ∀ n ∈ g.resolveOrder, ∀ p, g.outcome modules n ≠ .error p := by
    intro n hn p hp
    obtain ⟨p', hfold⟩ := tracks_nil.foldlM_stops hn hp
    rw [resolveAll, hfold] at hres
    cases hres
  obtain ⟨acc, hfold, htr⟩ := tracks_nil.foldlM_ok g.resolveOrder hok
  rw [resolveAll, hfold] at hres
  cases hres
  exact ⟨hok, acc.2, by simpa using htr⟩

/-- Resolution stops exactly when locating some signature in its loaded module stops. -/
theorem resolveAll_ok_iff :
  (∃ res, g.resolveAll modules = .ok res) ↔ ∀ n ∈ g.signatureNames, ∀ p, g.outcome modules n ≠ .error p
  := by
  constructor
  · rintro ⟨res, hres⟩ n hn
    exact (tracks_of_resolveAll hres).1 n ((mem_resolveOrder g).2 hn)
  · intro hok
    obtain ⟨acc, hfold, -⟩ :=
      tracks_nil.foldlM_ok g.resolveOrder fun n hn => hok n ((mem_resolveOrder g).1 hn)
    exact ⟨acc.1, by rw [resolveAll, hfold]; rfl⟩

/-- Resolving the signatures of `g` against the loaded `modules` stops exactly when locating
some signature in its loaded module stops.  Otherwise every signature name gets an address when
its module is loaded and the signature is found there, and is otherwise among the failures,
sorted, with the reason: its module is not loaded, or the text of the locate error; no name is in
both, every name is in one; and the module of each library the names need is asked for once. -/
theorem resolveAll_partitions (g : Gamedata) (modules : String → Option ModuleImage) :
  ((∃ res, g.resolveAll modules = .ok res) ↔
    ∀ n ∈ g.signatureNames, ∀ m, modules (g.libraryOf n) = some m →
      ∀ p, g.locate n m.bytes m.bytes.length ≠ .error (.panic p)) ∧
  ∀ res, g.resolveAll modules = .ok res →
    (∀ n a, res.addresses.lookup n = some a ↔ n ∈ g.signatureNames ∧
      ∃ m off, modules (g.libraryOf n) = some m ∧ g.locate n m.bytes m.bytes.length = .ok off ∧
        a = (m.name, m.start + off)) ∧
    (∀ n r, res.failures.lookup n = some r ↔ n ∈ g.signatureNames ∧
      ((modules (g.libraryOf n) = none ∧ r = "module " ++ g.libraryOf n ++ " not loaded") ∨
        ∃ m e, modules (g.libraryOf n) = some m ∧
          g.locate n m.bytes m.bytes.length = .error (.error e) ∧ r = e.message)) ∧
    (res.failures.map Prod.fst).Pairwise (· < ·) ∧
    (∀ n, n ∈ res.failures.map Prod.fst ↔
      n ∈ g.signatureNames ∧ res.addresses.lookup n = none) ∧
    (∀ n, n ∈ g.signatureNames ↔
      n ∈ res.addresses.map Prod.fst ∨ n ∈ res.failures.map Prod.fst) ∧
    (∀ n, ¬(n ∈ res.addresses.map Prod.fst ∧ n ∈ res.failures.map Prod.fst)) ∧
    res.modulesAsked.Nodup ∧
    ∀ l, l ∈ res.modulesAsked ↔ ∃ n ∈ g.signatureNames, g.libraryOf n = l
  := by
  refine ⟨?_, fun res hres => ?_⟩
  · rw [resolveAll_ok_iff]
    simp only [ne_eq, outcome_eq_error, not_exists, not_and]
    exact ⟨fun h n hn m hm p => h n hn p m hm, fun h n hn p m hm => h n hn m hm p⟩
  obtain ⟨hok, known, h⟩ := tracks_of_resolveAll hres
  have hmem : ∀ n, n ∈ g.resolveOrder ↔ n ∈ g.signatureNames := fun n => mem_resolveOrder g
  refine ⟨fun n a => ?_, fun n r => ?_, ?_, fun n => ?_, fun n => ?_, fun n => ?_,
    h.asked_nodup, fun l => ?_⟩
  · rw [h.lookup_addresses, ← hmem]
    split_ifs with hn <;> simp [hn, addressOf_eq_some]
  · rw [h.lookup_failures, ← hmem]
    split_ifs with hn <;> simp [hn, reasonOf_eq_some]
  · rw [h.names_failures]
    exact (pairwise_lt_resolveOrder g).sublist List.filter_sublist
  · rw [h.names_failures, List.mem_filter, h.lookup_addresses, ← hmem]
    constructor
    · rintro ⟨hn, hr⟩
      exact ⟨hn, by rw [if_pos hn]; exact (reasonOf_isSome_iff (hok n hn)).1 hr⟩
    · rintro ⟨hn, ha⟩
      rw [if_pos hn] at ha
      exact ⟨hn, (reasonOf_isSome_iff (hok n hn)).2 ha⟩
  · rw [h.names_addresses, h.names_failures, List.mem_filter, List.mem_filter, ← hmem]
    constructor
    · intro hn
      by_cases ha : (g.addressOf modules n).isSome
      · exact Or.inl ⟨hn, ha⟩
      · exact Or.inr ⟨hn, (reasonOf_isSome_iff (hok n hn)).2 (by simpa using ha)⟩
    · rintro (⟨hn, -⟩ | ⟨hn, -⟩) <;> exact hn
  · rw [h.names_addresses, h.names_failures, List.mem_filter, List.mem_filter]
    rintro ⟨⟨-, ha⟩, ⟨-, hr⟩⟩
    exact not_addressOf_and_reasonOf ⟨ha, hr⟩
  · rw [h.mem_asked]
    simp only [hmem]

end EngineSdk.Gamedata
