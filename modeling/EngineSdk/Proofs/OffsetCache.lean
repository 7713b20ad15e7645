import Mathlib
import EngineSdk.Netvar.Offsets

/-!
# What the offset cache answers

`Registry.offsetOf` answers from the cache when the cache holds the key of the pair of names,
and otherwise searches the tables and caches a found offset.  The key is `combinedKey` of the
two names: a pair of 32-bit FNV-1a hashes, so two different pairs may share a key.

Compared with `Registry.search`, the same lookup with no cache:

* every answer the cache gives for a pair is the successful search of a pair asked for before,
  under the same key (`Faithful`);
* a lookup that fails leaves the cache as it was, and a search that succeeds stores exactly the
  key of its pair (`offsetOf_run`, `OffsetCache.find?_insert`);
* over any run of lookups, prefetches and clearings, the answers are those of the search alone
  as soon as no two pairs asked for share a key (`session_transparent`);
* but two pairs with one key get one answer: `costarring` and `liquid` have the same FNV-1a hash,
  and after the first the second is answered with the first one's offset.

Without a class list a prefetch answers `notInitialized` for every pair and leaves the cache
alone.
-/

namespace EngineSdk.Netvar

/-! ### The cache as a map from keys -/

namespace OffsetCache

theorem lookup_cons_if (k k' : UInt64) (o : PropOffset) (es : List (UInt64 × PropOffset)) :
  ((k, o) :: es).lookup k' = if k' = k then some o else es.lookup k'
  := by
  by_cases h : k' = k
  · subst h
    simp
  · have hne : (k' == k) = false := by simpa using h
    simp [List.lookup_cons, h, hne]

/-- Replacing the entries under `k` leaves every other key's lookup alone. -/
theorem lookup_replace_of_ne (es : List (UInt64 × PropOffset)) {k k' : UInt64} (o : PropOffset)
    (h : k' ≠ k) :
  (es.map fun e => if e.1 = k then (k, o) else e).lookup k' = es.lookup k'
  := by
  induction es with
  | nil => rfl
  | cons e es ih =>
    obtain ⟨k₀, o₀⟩ := e
    by_cases hk : k₀ = k
    · subst hk
      simp [lookup_cons_if, h, ih]
    · simp [lookup_cons_if, hk, ih]

/-- Once some entry is under `k`, replacing them answers `k` with the new value. -/
theorem lookup_replace_self (es : List (UInt64 × PropOffset)) (k : UInt64) (o : PropOffset)
    (h : ∃ e ∈ es, e.1 = k) :
  (es.map fun e => if e.1 = k then (k, o) else e).lookup k = some o
  := by
  induction es with
  | nil => simp at h
  | cons e es ih =>
    obtain ⟨k₀, o₀⟩ := e
    by_cases hk : k₀ = k
    · subst hk
      simp
    · have hrest : ∃ e ∈ es, e.1 = k := by simpa [hk] using h
      simp [lookup_cons_if, hk, Ne.symm hk, ih hrest]

/-- Appending an entry under a key that is not there yet answers that key and no other. -/
theorem lookup_append_fresh (es : List (UInt64 × PropOffset)) (k k' : UInt64) (o : PropOffset)
    (h : ∀ e ∈ es, e.1 ≠ k) :
  (es ++ [(k, o)]).lookup k' = if k' = k then some o else es.lookup k'
  := by
  induction es with
  | nil => simp [lookup_cons_if]
  | cons e es ih =>
    obtain ⟨k₀, o₀⟩ := e
    have hk : k₀ ≠ k := h _ List.mem_cons_self
    have hrest : ∀ e ∈ es, e.1 ≠ k := fun e he => h e (List.mem_cons_of_mem _ he)
    simp only [List.cons_append, lookup_cons_if, ih hrest]
    by_cases h' : k' = k₀
    · have : k' ≠ k := h' ▸ hk
      simp [h', hk]
    · simp [h']

@[simp] theorem find?_empty (t p : String) : empty.find? t p = none := rfl

/-- Storing under the key of `t.p` changes the answer for exactly the pairs with that key. -/
theorem find?_insert (c : OffsetCache) (t p t' p' : String) (o : PropOffset) :
  (c.insert t p o).find? t' p' =
    if keyOf t' p' = keyOf t p then some o else c.find? t' p'
  := by
  unfold find?
  by_cases hany : (c.entries.any fun e => e.1 == keyOf t p) = true
  · have hins : c.insert t p o =
        ⟨c.entries.map fun e => if e.1 = keyOf t p then (keyOf t p, o) else e⟩ := by
      simp [insert, hany]
    have hmem : ∃ e ∈ c.entries, e.1 = keyOf t p := by simpa using hany
    rw [hins]
    by_cases hk : keyOf t' p' = keyOf t p
    · simp only [hk, if_true]
      exact lookup_replace_self _ _ _ hmem
    · simp only [hk, if_false]
      exact lookup_replace_of_ne _ _ hk
  · have hins : c.insert t p o = ⟨c.entries ++ [(keyOf t p, o)]⟩ := by
      simp [insert, hany]
    rw [hins]
    apply lookup_append_fresh
    intro e he hek
    apply hany
    exact List.any_eq_true.2 ⟨e, he, by simp [hek]⟩

/-- The cache after the outcome `a` of searching for `t.p`: a found offset is stored, anything
else leaves the cache as it was. -/
def record (c : OffsetCache) (t p : String) (a : Except Panic (Except RecvPropError PropOffset)) :
    OffsetCache :=
  match a with
  | .ok (.ok o) => c.insert t p o
  | _ => c

end OffsetCache

/-- No two of the pairs share a key. -/
def KeysDistinct (asked : List (String × String)) : Prop :=
  ∀ q ∈ asked, ∀ q' ∈ asked, keyOf q.1 q.2 = keyOf q'.1 q'.2 → q = q'

/-! ### One lookup -/

/-- The answer for `table.prop` with no cache: the table by name, then the property in it. -/
def Registry.search (r : Registry) (table prop : String) :
    Except Panic (Except RecvPropError PropOffset) :=
  match r.findTable table with
  | none => .ok (.error (.tableNotFound table))
  | some t =>
    match r.arena.findProp (some t) prop.toUTF8.toList with
    | .error p => .error p
    | .ok none => .ok (.error (.propNotFound table prop))
    | .ok (some o) => .ok (.ok o)

@[simp] theorem Lookup.run_get (c : OffsetCache) :
  (ExceptT.run (get : Lookup OffsetCache)).run c = (.ok c, c)
  := rfl

@[simp] theorem Lookup.run_pure {α : Type} (a : α) (c : OffsetCache) :
  (ExceptT.run (pure a : Lookup α)).run c = (.ok a, c)
  := rfl

@[simp] theorem Lookup.run_set (c c' : OffsetCache) :
  (ExceptT.run (set c' : Lookup PUnit)).run c = (.ok ⟨⟩, c')
  := rfl

@[simp] theorem Lookup.run_lift {α : Type} (e : Except Panic α) (c : OffsetCache) :
  (ExceptT.run (ExceptT.mk (pure e) : Lookup α)).run c = (e, c)
  := rfl

@[simp] theorem Lookup.run_modify (f : OffsetCache → OffsetCache) (c : OffsetCache) :
  (ExceptT.run (modify f : Lookup PUnit)).run c = (.ok ⟨⟩, f c)
  := rfl

theorem Lookup.run_bind {α β : Type} (x : Lookup α) (f : α → Lookup β) (c : OffsetCache) :
    (x >>= f).run.run c =
      match x.run.run c with
      | (.ok a, c') => (f a).run.run c'
      | (.error e, c') => (.error e, c') := by
  simp only [ExceptT.run_bind, StateT.run_bind]
  rcases x.run.run c with ⟨_ | _, _⟩ <;> rfl

namespace Registry

variable (r : Registry)

/-- A lookup is answered from the cache when it holds the key, and is otherwise the search,
whose found offset is stored. -/
theorem offsetOf_run (t p : String) (c : OffsetCache) :
    (r.offsetOf t p).run.run c =
      match c.find? t p with
      | some o => (.ok (.ok o), c)
      | none => (r.search t p, c.record t p (r.search t p)) := by
  unfold offsetOf search
  simp only [Lookup.run_bind, Lookup.run_get]
  cases c.find? t p with
  | some o => rfl
  | none =>
    cases r.findTable t with
    | none => rfl
    | some i =>
      simp only [Lookup.run_bind, Lookup.run_lift]
      rcases r.arena.findProp (some i) p.toUTF8.toList with e | _ | o
      · rfl
      · rfl
      · simp only [Lookup.run_bind, Lookup.run_modify, Lookup.run_pure, OffsetCache.record]

/-- Whatever the cache answers for a pair is the successful search of one of the pairs
`asked`, under the same key. -/
def Faithful (asked : List (String × String)) (c : OffsetCache) : Prop :=
  ∀ t p o, c.find? t p = some o →
    ∃ q ∈ asked, keyOf q.1 q.2 = keyOf t p ∧ r.search q.1 q.2 = .ok (.ok o)

variable {r}

theorem faithful_empty (asked : List (String × String)) : r.Faithful asked .empty := by
  intro t p o h
  simp at h

/-- Recording the search of a pair asked for keeps the cache faithful. -/
theorem Faithful.record {asked : List (String × String)} {c : OffsetCache} {t p : String}
    (hc : r.Faithful asked c) (ht : (t, p) ∈ asked) :
  r.Faithful asked (c.record t p (r.search t p))
  := by
  unfold OffsetCache.record
  split
  · rename_i o hs
    intro t' p' o' h
    rw [OffsetCache.find?_insert] at h
    by_cases hk : keyOf t' p' = keyOf t p
    · simp only [hk, if_true, Option.some.injEq] at h
      subst h
      exact ⟨(t, p), ht, hk.symm, hs⟩
    · simp only [hk, if_false] at h
      exact hc t' p' o' h
  · exact hc

/-- A cache that is faithful answers a pair exactly as the search does, once no two pairs asked
for share a key. -/
theorem Faithful.search_eq {asked : List (String × String)} {c : OffsetCache} {t p : String}
    {o : PropOffset} (hc : r.Faithful asked c) (ht : (t, p) ∈ asked) (hd : KeysDistinct asked)
    (h : c.find? t p = some o) :
  r.search t p = .ok (.ok o)
  := by
  obtain ⟨q, hq, hk, hs⟩ := hc t p o h
  have : q = (t, p) := hd q hq (t, p) ht hk
  subst this
  exact hs

/-- One lookup of a pair asked for keeps the cache faithful, and its answer is the search's when
no two pairs asked for share a key. -/
theorem offsetOf_faithful {asked : List (String × String)} {c : OffsetCache} {t p : String}
    (hc : r.Faithful asked c) (ht : (t, p) ∈ asked) :
  r.Faithful asked ((r.offsetOf t p).run.run c).2 ∧
    (KeysDistinct asked → ((r.offsetOf t p).run.run c).1 = r.search t p)
  := by
  rw [offsetOf_run]
  cases h : c.find? t p with
  | some o => exact ⟨hc, fun hd => (hc.search_eq ht hd h).symm⟩
  | none => exact ⟨hc.record ht, fun _ => rfl⟩

/-- Looking several pairs up in turn keeps the cache faithful, and the answers are the
searches' when no two pairs asked for share a key; a search that stops stops the run. -/
theorem offsetsOf_faithful {asked : List (String × String)} (ps : List (String × String))
    {c : OffsetCache} (hc : r.Faithful asked c) (hps : ∀ q ∈ ps, q ∈ asked) :
  r.Faithful asked ((ps.mapM fun q => r.offsetOf q.1 q.2).run.run c).2 ∧
    (KeysDistinct asked →
      ((ps.mapM fun q => r.offsetOf q.1 q.2).run.run c).1 = ps.mapM fun q => r.search q.1 q.2)
  := by
  induction ps generalizing c with
  | nil => exact ⟨hc, fun _ => rfl⟩
  | cons q ps ih =>
    have hq : (q.1, q.2) ∈ asked := hps q List.mem_cons_self
    have hrest : ∀ q ∈ ps, q ∈ asked := fun q' h => hps q' (List.mem_cons_of_mem _ h)
    obtain ⟨hfirst, hanswer⟩ := offsetOf_faithful hc hq
    simp only [List.mapM_cons, Lookup.run_bind]
    rcases hx : (r.offsetOf q.1 q.2).run.run c with ⟨_ | a, c'⟩
    all_goals rw [hx] at hfirst hanswer; dsimp only at hfirst hanswer ⊢
    · exact ⟨hfirst, fun hd => by rw [← hanswer hd]; rfl⟩
    · obtain ⟨hlast, hrun⟩ := ih hfirst hrest
      rcases hy : (ps.mapM fun q => r.offsetOf q.1 q.2).run.run c' with ⟨_ | bs, c''⟩
      all_goals simp only [hy] at hlast hrun ⊢
      · exact ⟨hlast, fun hd => by rw [← hanswer hd, ← hrun hd]; rfl⟩
      · exact ⟨hlast, fun hd => by rw [← hanswer hd, ← hrun hd]; rfl⟩

/-- A lookup that does not find an offset leaves the cache as it was. -/
theorem offsetOf_keeps_of_not_found {c : OffsetCache} {t p : String}
    (h : ∀ o, ((r.offsetOf t p).run.run c).1 ≠ .ok (.ok o)) :
  ((r.offsetOf t p).run.run c).2 = c
  := by
  rw [offsetOf_run] at h ⊢
  cases hc : c.find? t p with
  | some o =>
    simp only [hc] at h
    exact absurd rfl (h o)
  | none =>
    simp only [hc] at h ⊢
    rcases hs : r.search t p with _ | _ | o
    · rfl
    · rfl
    · rw [hs] at h
      exact absurd rfl (h o)

/-- A lookup that misses the cache and finds an offset stores it under the key of its pair and
changes no other key. -/
theorem offsetOf_stores_of_miss {c : OffsetCache} {t p : String} {o : PropOffset}
    (hmiss : c.find? t p = none) (h : ((r.offsetOf t p).run.run c).1 = .ok (.ok o))
    (t' p' : String) :
  ((r.offsetOf t p).run.run c).2.find? t' p' =
    if keyOf t' p' = keyOf t p then some o else c.find? t' p'
  := by
  rw [offsetOf_run, hmiss] at h ⊢
  dsimp only at h ⊢
  rw [h]
  exact OffsetCache.find?_insert c t p t' p' o

/-- With a class list, a prefetch looks its pairs up in turn. -/
theorem prefetch_of_ne_nil (hr : r.classes ≠ []) (ps : List (String × String)) :
  r.prefetch ps = ps.mapM fun q => r.offsetOf q.1 q.2
  := by
  simp [prefetch, List.isEmpty_iff, hr]

/-- Without a class list, a prefetch answers `notInitialized` for every pair, whatever the cache
holds, and leaves the cache alone. -/
theorem prefetch_without_classes (ps : List (String × String)) (c : OffsetCache) :
  ({ r with classes := [] }.prefetch ps).run.run c =
    (.ok (ps.map fun _ => .error .notInitialized), c)
  := rfl

end Registry


/-! ### Runs of calls -/

/-- A call on the offset cache of one class list. -/
inductive CacheCall where
  /-- Looks one property up. -/
  | offset (table prop : String)
  /-- Looks several properties up in turn. -/
  | prefetch (pairs : List (String × String))
  /-- Empties the cache. -/
  | clear

namespace CacheCall

/-- The pairs a call looks up. -/
def pairs : CacheCall → List (String × String)
  | .offset t p => [(t, p)]
  | .prefetch ps => ps
  | .clear => []

/-- A call on the cache, with its answers. -/
def perform (r : Registry) : CacheCall → Lookup (List (Except RecvPropError PropOffset))
  | .offset t p => do pure [← r.offsetOf t p]
  | .prefetch ps => r.prefetch ps
  | .clear => do set OffsetCache.empty; pure []

/-- The answers of a call with no cache. -/
def uncached (r : Registry) : CacheCall → Except Panic (List (Except RecvPropError PropOffset))
  | .offset t p => do pure [← r.search t p]
  | .prefetch ps => ps.mapM fun q => r.search q.1 q.2
  | .clear => pure []

end CacheCall

namespace Registry

/-- Calls in turn from a cache: each call's answers, or how it stopped, and the cache at the
end.  A call that stops keeps what it stored, and the next call runs on. -/
def session (r : Registry) : OffsetCache → List CacheCall →
    List (Except Panic (List (Except RecvPropError PropOffset))) × OffsetCache
  | c, [] => ([], c)
  | c, call :: calls =>
    let (a, c') := (call.perform r).run.run c
    let (as, c'') := r.session c' calls
    (a :: as, c'')

variable {r : Registry}

/-- A call on pairs asked for keeps the cache faithful, and its answers are those without a
cache when no two pairs asked for share a key. -/
theorem perform_faithful (hr : r.classes ≠ []) {asked : List (String × String)}
    (call : CacheCall) {c : OffsetCache} (hc : r.Faithful asked c)
    (hcall : ∀ q ∈ call.pairs, q ∈ asked) :
  r.Faithful asked ((call.perform r).run.run c).2 ∧
    (KeysDistinct asked → ((call.perform r).run.run c).1 = call.uncached r)
  := by
  cases call with
  | offset t p =>
    obtain ⟨hlast, hanswer⟩ := offsetOf_faithful hc (hcall (t, p) List.mem_cons_self)
    simp only [CacheCall.perform, CacheCall.uncached, Lookup.run_bind]
    rcases hx : (r.offsetOf t p).run.run c with ⟨_ | a, c'⟩
    all_goals rw [hx] at hlast hanswer; dsimp only at hlast hanswer ⊢
    · exact ⟨hlast, fun hd => by rw [← hanswer hd]; rfl⟩
    · exact ⟨hlast, fun hd => by rw [← hanswer hd]; rfl⟩
  | prefetch ps =>
    simp only [CacheCall.perform, CacheCall.uncached, prefetch_of_ne_nil hr]
    exact offsetsOf_faithful ps hc hcall
  | clear => exact ⟨faithful_empty asked, fun _ => rfl⟩

/-- A run of calls on pairs asked for keeps the cache faithful, and all its answers are those
without a cache when no two pairs asked for share a key. -/
theorem session_faithful (hr : r.classes ≠ []) {asked : List (String × String)}
    (calls : List CacheCall) {c : OffsetCache} (hc : r.Faithful asked c)
    (hcalls : ∀ q ∈ calls.flatMap CacheCall.pairs, q ∈ asked) :
  r.Faithful asked (r.session c calls).2 ∧
    (KeysDistinct asked → (r.session c calls).1 = calls.map (CacheCall.uncached r))
  := by
  induction calls generalizing c with
  | nil => exact ⟨hc, fun _ => rfl⟩
  | cons call calls ih =>
    have hfirst : ∀ q ∈ call.pairs, q ∈ asked := fun q h => hcalls q (by simp [h])
    have hrest : ∀ q ∈ calls.flatMap CacheCall.pairs, q ∈ asked :=
      fun q h => hcalls q (by simp_all)
    obtain ⟨hmid, hanswer⟩ := perform_faithful hr call hc hfirst
    rcases hx : (call.perform r).run.run c with ⟨a, c'⟩
    rw [hx] at hmid hanswer
    obtain ⟨hlast, hanswers⟩ := ih hmid hrest
    simp only [session, hx]
    exact ⟨hlast, fun hd => by rw [List.map_cons, ← hanswer hd, ← hanswers hd]⟩

/-- Over one class list and every run of lookups, prefetches and clearings from the empty
cache, the cache holds only successful searches of pairs asked for, each under the key of its
pair; a lookup that finds nothing leaves the cache alone, and one that misses the cache and
finds an offset stores it under exactly its pair's key; whenever no two pairs asked for share a
key, the answers are those of the search alone.  Without a class list a prefetch answers
`notInitialized` for every pair and leaves the cache alone. -/
theorem offsetCache_transparent_without_key_collisions (r : Registry) (hr : r.classes ≠ [])
    (calls : List CacheCall) :
  r.Faithful (calls.flatMap CacheCall.pairs) (r.session .empty calls).2 ∧
    (KeysDistinct (calls.flatMap CacheCall.pairs) →
      (r.session .empty calls).1 = calls.map (CacheCall.uncached r)) ∧
    (∀ c t p, (∀ o, ((r.offsetOf t p).run.run c).1 ≠ .ok (.ok o)) →
      ((r.offsetOf t p).run.run c).2 = c) ∧
    (∀ c t p o, c.find? t p = none → ((r.offsetOf t p).run.run c).1 = .ok (.ok o) →
      ∀ t' p', ((r.offsetOf t p).run.run c).2.find? t' p' =
        if keyOf t' p' = keyOf t p then some o else c.find? t' p') ∧
    (∀ c ps, ({ r with classes := [] }.prefetch ps).run.run c =
      (.ok (ps.map fun _ => .error .notInitialized), c))
  := by
  obtain ⟨hfaithful, hanswers⟩ := session_faithful hr calls (faithful_empty _) (fun _ h => h)
  refine ⟨hfaithful, hanswers, ?_, ?_, ?_⟩
  · intro c t p h
    exact offsetOf_keeps_of_not_found h
  · intro c t p o hmiss h
    exact offsetOf_stores_of_miss hmiss h
  · intro c ps
    exact prefetch_without_classes ps c

end Registry

/-! ### Two names with one key -/

/-- One class whose table `T` has the properties `costarring`, at offset 1, and `liquid`, at
offset 2: two names with the same FNV-1a hash. -/
def collidingRegistry : Registry where
  arena := ⟨[⟨some "T".toUTF8.toList,
    [⟨some "costarring".toUTF8.toList, 0, 1, none⟩, ⟨some "liquid".toUTF8.toList, 0, 2, none⟩]⟩]⟩
  classes := [⟨some "C".toUTF8.toList, some 0, 1⟩]

/-- The cache is transparent on runs whose pairs have distinct keys: here a lookup, a prefetch
of the same pair and a clearing, over the registry with the colliding names. -/
theorem offsetCache_transparent_on_distinct_run :
  collidingRegistry.classes ≠ [] ∧
    collidingRegistry.Faithful [("T", "costarring"), ("T", "costarring")]
      (collidingRegistry.session .empty
        [.offset "T" "costarring", .prefetch [("T", "costarring")], .clear]).2 ∧
    (KeysDistinct [("T", "costarring"), ("T", "costarring")] →
      (collidingRegistry.session .empty
          [.offset "T" "costarring", .prefetch [("T", "costarring")], .clear]).1 =
        [CacheCall.offset "T" "costarring", .prefetch [("T", "costarring")], .clear].map
          (CacheCall.uncached collidingRegistry)) ∧
    (∀ c t p, (∀ o, ((collidingRegistry.offsetOf t p).run.run c).1 ≠ .ok (.ok o)) →
      ((collidingRegistry.offsetOf t p).run.run c).2 = c) ∧
    (∀ c t p o, c.find? t p = none →
      ((collidingRegistry.offsetOf t p).run.run c).1 = .ok (.ok o) →
      ∀ t' p', ((collidingRegistry.offsetOf t p).run.run c).2.find? t' p' =
        if keyOf t' p' = keyOf t p then some o else c.find? t' p') ∧
    (∀ c ps, ({ collidingRegistry with classes := [] }.prefetch ps).run.run c =
      (.ok (ps.map fun _ => .error .notInitialized), c))
  :=
  ⟨by simp [collidingRegistry], Registry.offsetCache_transparent_without_key_collisions
    collidingRegistry (by simp [collidingRegistry])
    [.offset "T" "costarring", .prefetch [("T", "costarring")], .clear]⟩

/-- Looking up `T.costarring` and then `T.liquid` answers the second with the first one's
offset, 1, where the search finds 2: the two pairs share a key. -/
theorem offsetCache_answers_colliding_pair :
  keyOf "T" "costarring" = keyOf "T" "liquid" ∧
    (collidingRegistry.session .empty [.offset "T" "costarring", .offset "T" "liquid"]).1 ≠
      [CacheCall.offset "T" "costarring", .offset "T" "liquid"].map
        (CacheCall.uncached collidingRegistry)
  := by
  have hkey : keyOf "T" "costarring" = keyOf "T" "liquid" := by decide +kernel
  have hcached :
      (collidingRegistry.session .empty [.offset "T" "costarring", .offset "T" "liquid"]).1 =
        [.ok [.ok ⟨1, some .int⟩], .ok [.ok ⟨1, some .int⟩]] := by
    cbv
  have hsearch :
      [CacheCall.offset "T" "costarring", .offset "T" "liquid"].map
          (CacheCall.uncached collidingRegistry) =
        [.ok [.ok ⟨1, some .int⟩], .ok [.ok ⟨2, some .int⟩]] := by
    cbv
  refine ⟨hkey, ?_⟩
  rw [hcached, hsearch]
  simp

end EngineSdk.Netvar
