import Mathlib
import EngineSdk.Netvar.Field
import EngineSdk.Proofs.OffsetCache

/-!
# Field slots over the offset cache

A field keeps the offset of its property in a slot of its own, a second cache on top of the offset
cache.  The two forget differently: the offset cache is emptied by a clearing, the slot never
is.  Resolving an empty slot asks `offsetVia`, the lookup through the engine, and stores a found
offset; resolving a filled slot answers its offset and asks nothing.

Over any run of resolutions, each against the class list of its moment, and clearings of the
cache:

* a filled slot answers its offset to every resolution and touches the cache not at all, so only
  the clearings change it (`slotSession_filled`);
* from an empty slot, as long as no lookup finds an offset, the slot stays empty and every
  resolution answers what the lookup answers at that moment (`slotSession_unfound`);
* the first lookup that finds an offset `v` fills the slot with `v`, and from then on every
  resolution answers `v`, whatever the class list and the clearings (`slotSession_first_found`);
* every run is one of the two (`offsetSession_unfound_or_first_found`).

The accessors of a field go through the same slot: a run of `resolve`, `offset`, `tryOffset`,
`tryGet` and `trySet` calls moves the slot and the cache exactly as the resolutions they make,
and a `try` accessor on a null entity makes none (`fieldSession_eq_slotSession`).
-/

namespace EngineSdk.Netvar

/-- The offset of `table.prop` through the engine, or the error of the lookup. -/
def offsetAnswer (head : Except RecvPropError Registry) (table prop : String) :
    Lookup (Except RecvPropError Int) :=
  (fun r => r.map PropOffset.offset) <$> offsetVia head table prop

/-- What a call on a slot answers: a resolution's offset or error, or how it stopped; a clearing
answers nothing. -/
abbrev SlotAnswer := Option (Except Panic (Except RecvPropError Int))

/-- The offset an answer found. -/
def foundOffset : SlotAnswer → Option Int
  | some (.ok (.ok v)) => some v
  | _ => none

@[simp] theorem foundOffset_eq_some (a : SlotAnswer) (v : Int) :
  foundOffset a = some v ↔ a = some (.ok (.ok v))
  := by
  rcases a with _ | _ | _ | w <;> simp [foundOffset]

/-- No answer of a run found an offset. -/
def Unfound (answers : List SlotAnswer) : Prop := ∀ a ∈ answers, foundOffset a = none

instance (answers : List SlotAnswer) : Decidable (Unfound answers) :=
  inferInstanceAs (Decidable (∀ a ∈ answers, foundOffset a = none))

theorem unfound_cons {a : SlotAnswer} {answers : List SlotAnswer} :
  Unfound (a :: answers) ↔ foundOffset a = none ∧ Unfound answers
  :=
  List.forall_mem_cons

/-- A call on the slot of a field. -/
inductive SlotCall where
  /-- Resolves the slot against the class list of the moment. -/
  | resolve (head : Except RecvPropError Registry)
  /-- Empties the offset cache. -/
  | clear

namespace SlotCall

/-- The call empties the cache. -/
def isClear : SlotCall → Bool
  | .resolve _ => false
  | .clear => true

/-- The answer to a call on a slot that holds `v`. -/
def filledAnswer (v : Int) : SlotCall → SlotAnswer
  | .resolve _ => some (.ok (.ok v))
  | .clear => none

/-- One call on a slot `s` with the cache `c`: the answer, and the cache and the slot after it.
A resolution that stops keeps what it stored in the cache and leaves the slot as it was. -/
def perform (table prop : String) : SlotCall → OffsetCache → Option Int →
    SlotAnswer × OffsetCache × Option Int
  | .resolve head, c, s =>
    match (resolveSlot head table prop s).run.run c with
    | (.ok (r, s'), c') => (some (.ok r), c', s')
    | (.error p, c') => (some (.error p), c', s)
  | .clear, _, s => (none, .empty, s)

/-- One call with no slot: a resolution answers what the lookup answers. -/
def uncached (table prop : String) : SlotCall → OffsetCache → SlotAnswer × OffsetCache
  | .resolve head, c =>
    let r := (offsetAnswer head table prop).run.run c
    (some r.1, r.2)
  | .clear, _ => (none, .empty)

end SlotCall

/-- Calls in turn on one slot: their answers, and the cache and the slot at the end. -/
def slotSession (table prop : String) : OffsetCache → Option Int → List SlotCall →
    List SlotAnswer × OffsetCache × Option Int
  | c, s, [] => ([], c, s)
  | c, s, call :: calls =>
    let r := call.perform table prop c s
    let rest := slotSession table prop r.2.1 r.2.2 calls
    (r.1 :: rest.1, rest.2)

/-- The same calls with no slot, each resolution a lookup: their answers and the cache at the
end. -/
def offsetSession (table prop : String) : OffsetCache → List SlotCall →
    List SlotAnswer × OffsetCache
  | c, [] => ([], c)
  | c, call :: calls =>
    let r := call.uncached table prop c
    let rest := offsetSession table prop r.2 calls
    (r.1 :: rest.1, rest.2)

/-! ### One resolution -/

@[simp] theorem Lookup.run_map {α β : Type} (f : α → β) (x : Lookup α) (c : OffsetCache) :
    (f <$> x).run.run c =
      match x.run.run c with
      | (.ok a, c') => (.ok (f a), c')
      | (.error e, c') => (.error e, c') := by
  rw [map_eq_bind_pure_comp, Lookup.run_bind]
  rcases x.run.run c with ⟨_ | _, _⟩ <;> rfl

theorem resolveSlot_filled (head : Except RecvPropError Registry) (table prop : String) (v : Int) :
  resolveSlot head table prop (some v) = pure (.ok v, some v)
  := rfl

/-- Resolving an empty slot answers the lookup and fills the slot with what it found. -/
theorem resolveSlot_empty (head : Except RecvPropError Registry) (table prop : String) :
  resolveSlot head table prop none =
    (fun r => (r, r.toOption)) <$> offsetAnswer head table prop
  := by
  simp only [resolveSlot, offsetAnswer, Functor.map_map]
  rw [map_eq_bind_pure_comp]
  congr 1
  funext r
  cases r <;> rfl

/-- A resolution leaves a filled slot as it was and fills an empty one with the offset found. -/
theorem resolveSlot_run_slot (head : Except RecvPropError Registry) (table prop : String)
    (s s' : Option Int) (c c' : OffsetCache) (r : Except RecvPropError Int)
    (h : (resolveSlot head table prop s).run.run c = (.ok (r, s'), c')) :
  s' = s.or r.toOption
  := by
  cases s with
  | some v =>
    rw [resolveSlot_filled] at h
    cases h
    rfl
  | none =>
    rw [resolveSlot_empty, Lookup.run_map] at h
    rcases hx : (offsetAnswer head table prop).run.run c with ⟨_ | a, c''⟩ <;>
      rw [hx] at h <;> cases h
    rfl

namespace SlotCall

variable (table prop : String)

theorem perform_filled (call : SlotCall) (c : OffsetCache) (v : Int) :
  call.perform table prop c (some v) =
    (call.filledAnswer v, if call.isClear then .empty else c, some v)
  := by
  cases call <;> rfl

theorem perform_empty (call : SlotCall) (c : OffsetCache) :
  call.perform table prop c none =
    ((call.uncached table prop c).1, (call.uncached table prop c).2,
      foundOffset (call.uncached table prop c).1)
  := by
  cases call with
  | clear => rfl
  | resolve head =>
    simp only [perform, uncached, resolveSlot_empty, Lookup.run_map]
    rcases (offsetAnswer head table prop).run.run c with ⟨_ | _ | v, c'⟩ <;> rfl

end SlotCall

/-! ### Runs on one slot -/

variable (table prop : String)

theorem slotSession_append (xs ys : List SlotCall) (c : OffsetCache) (s : Option Int) :
  slotSession table prop c s (xs ++ ys) =
    let r := slotSession table prop c s xs
    let rest := slotSession table prop r.2.1 r.2.2 ys
    (r.1 ++ rest.1, rest.2)
  := by
  induction xs generalizing c s with
  | nil => rfl
  | cons call xs ih => simp [slotSession, ih]

/-- A filled slot answers its offset to every resolution, whatever the class list, and leaves the
cache to the clearings. -/
theorem slotSession_filled (v : Int) (calls : List SlotCall) (c : OffsetCache) :
  slotSession table prop c (some v) calls =
    (calls.map (·.filledAnswer v), if calls.any (·.isClear) then .empty else c, some v)
  := by
  induction calls generalizing c with
  | nil => rfl
  | cons call calls ih =>
    simp only [slotSession, SlotCall.perform_filled, ih, List.map_cons, List.any_cons]
    cases call <;> simp [SlotCall.isClear]

/-- While no lookup finds an offset, an empty slot stays empty and the run is the run of the
lookups. -/
theorem slotSession_unfound (calls : List SlotCall) (c : OffsetCache)
    (h : Unfound (offsetSession table prop c calls).1) :
  slotSession table prop c none calls =
    ((offsetSession table prop c calls).1, (offsetSession table prop c calls).2, none)
  := by
  induction calls generalizing c with
  | nil => rfl
  | cons call calls ih =>
    obtain ⟨hfirst, hrest⟩ := unfound_cons.1 h
    simp only [slotSession, offsetSession, SlotCall.perform_empty, hfirst, ih _ hrest]

/-- The first lookup that finds `v` fills the slot, and every later resolution answers `v`. -/
theorem slotSession_first_found (pre post : List SlotCall) (head : Except RecvPropError Registry)
    (c c' : OffsetCache) (v : Int) (hpre : Unfound (offsetSession table prop c pre).1)
    (hfound : (offsetAnswer head table prop).run.run (offsetSession table prop c pre).2 =
      (.ok (.ok v), c')) :
  slotSession table prop c none (pre ++ .resolve head :: post) =
    ((offsetSession table prop c pre).1 ++ some (.ok (.ok v)) :: post.map (·.filledAnswer v),
      if post.any (·.isClear) then .empty else c', some v)
  := by
  have hstep : (SlotCall.resolve head).perform table prop (offsetSession table prop c pre).2 none =
      (some (.ok (.ok v)), c', some v) := by
    simp [SlotCall.perform_empty, SlotCall.uncached, hfound, foundOffset]
  simp [slotSession_append, slotSession_unfound table prop pre c hpre, slotSession, hstep,
    slotSession_filled]

/-- A run of lookups finds nothing, or has a first call that finds an offset. -/
theorem offsetSession_unfound_or_first_found (calls : List SlotCall) (c : OffsetCache) :
  Unfound (offsetSession table prop c calls).1 ∨
    ∃ pre head post v c', calls = pre ++ .resolve head :: post ∧
      Unfound (offsetSession table prop c pre).1 ∧
      (offsetAnswer head table prop).run.run (offsetSession table prop c pre).2 =
        (.ok (.ok v), c')
  := by
  induction calls generalizing c with
  | nil => exact .inl (by simp [offsetSession, Unfound])
  | cons call calls ih =>
    by_cases hfirst : foundOffset (call.uncached table prop c).1 = none
    · rcases ih (call.uncached table prop c).2 with
        hrest | ⟨pre, head, post, v, c', rfl, hpre, hfound⟩
      · exact .inl (unfound_cons.2 ⟨hfirst, hrest⟩)
      · exact .inr ⟨call :: pre, head, post, v, c', rfl, unfound_cons.2 ⟨hfirst, hpre⟩, hfound⟩
    · right
      obtain ⟨v, hv⟩ := Option.ne_none_iff_exists'.1 hfirst
      cases call with
      | clear => simp [SlotCall.uncached, foundOffset] at hv
      | resolve head =>
        refine ⟨[], head, calls, v, ((offsetAnswer head table prop).run.run c).2, rfl,
          fun a ha => by simp [offsetSession] at ha, ?_⟩
        have ha : ((offsetAnswer head table prop).run.run c).1 = .ok (.ok v) := by
          simpa [SlotCall.uncached] using hv
        simp only [offsetSession]
        rw [← ha]
        rfl

/-! ### The accessors of a field -/

namespace Field

variable (head : Except RecvPropError Registry) (f : Field)

theorem resolve_eq : f.resolve head =
    (fun r => (r.1, { f with slot := r.2 })) <$> resolveSlot head f.table f.prop f.slot
  := by
  rw [resolve, map_eq_bind_pure_comp]
  rfl

theorem tryOffset_eq : f.tryOffset head = Prod.map Except.toOption id <$> f.resolve head := by
  rw [tryOffset, map_eq_bind_pure_comp]
  rfl

theorem tryGet_eq {α : Type} (cell : Cell α) (block : List UInt8) :
  f.tryGet head cell (some block) =
    Prod.map (Option.map (loadAt cell block)) id <$> f.tryOffset head
  := by
  rw [tryGet, map_eq_bind_pure_comp]
  rfl

theorem trySet_eq {α : Type} (cell : Cell α) (block : List UInt8) (v : α) :
  f.trySet head cell (some block) v =
    Prod.map (Option.map (storeAt cell block · v)) id <$> f.tryOffset head
  := by
  rw [trySet, map_eq_bind_pure_comp]
  rfl

theorem tryGet_null {α : Type} (cell : Cell α) : f.tryGet head cell none = pure (none, f) := rfl

theorem trySet_null {α : Type} (cell : Cell α) (v : α) :
  f.trySet head cell none v = pure (none, f)
  := rfl

theorem offset_run_ok (c c' : OffsetCache) (o : Int) (f' : Field)
    (h : (f.resolve head).run.run c = (.ok (.ok o, f'), c')) :
  (f.offset head).run.run c = (.ok (o, f'), c')
  := by
  rw [offset, Lookup.run_bind, h]
  rfl

theorem offset_run_error (c c' : OffsetCache) (e : RecvPropError) (f' : Field)
    (h : (f.resolve head).run.run c = (.ok (.error e, f'), c')) :
  (f.offset head).run.run c = (.error (f'.unresolved e), c')
  := by
  rw [offset, Lookup.run_bind, h]
  rfl

theorem offset_run_stop (c c' : OffsetCache) (p : Panic)
    (h : (f.resolve head).run.run c = (.error p, c')) :
  (f.offset head).run.run c = (.error p, c')
  := by
  rw [offset, Lookup.run_bind, h]

end Field

/-- A call on a field, against the class list of its moment, or a clearing of the cache. -/
inductive FieldCall (α : Type) where
  | resolve (head : Except RecvPropError Registry)
  | offset (head : Except RecvPropError Registry)
  | tryOffset (head : Except RecvPropError Registry)
  | tryGet (head : Except RecvPropError Registry) (cell : Cell α) (entity : Option (List UInt8))
  | trySet (head : Except RecvPropError Registry) (cell : Cell α) (entity : Option (List UInt8))
      (v : α)
  | clear

/-- The cache and the field a call leaves: the field it returns, or the field as it was when the
call stops. -/
def settle {β : Type} : Except Panic (β × Field) × OffsetCache → Field → OffsetCache × Field
  | (.ok (_, f'), c), _ => (c, f')
  | (.error _, c), f => (c, f)

theorem settle_map {β γ : Type} (g : β → γ) (x : Lookup (β × Field)) (c : OffsetCache)
    (f : Field) :
  settle ((Prod.map g id <$> x).run.run c) f = settle (x.run.run c) f
  := by
  rw [Lookup.run_map]
  rcases x.run.run c with ⟨_ | _, _⟩ <;> rfl

namespace FieldCall

variable {α : Type}

/-- The call on the slot a field call makes: none for a `try` accessor on a null entity. -/
def slotCall : FieldCall α → Option SlotCall
  | .resolve head | .offset head | .tryOffset head => some (.resolve head)
  | .tryGet head _ entity | .trySet head _ entity _ => entity.map fun _ => .resolve head
  | .clear => some .clear

/-- The cache and the field after a call, its value set aside. -/
def perform : FieldCall α → OffsetCache → Field → OffsetCache × Field
  | .resolve head, c, f => settle ((f.resolve head).run.run c) f
  | .offset head, c, f => settle ((f.offset head).run.run c) f
  | .tryOffset head, c, f => settle ((f.tryOffset head).run.run c) f
  | .tryGet head cell entity, c, f => settle ((f.tryGet head cell entity).run.run c) f
  | .trySet head cell entity v, c, f => settle ((f.trySet head cell entity v).run.run c) f
  | .clear, _, f => (.empty, f)

variable (head : Except RecvPropError Registry) (c : OffsetCache) (f : Field)

theorem settle_resolve :
  settle ((f.resolve head).run.run c) f =
    let r := (SlotCall.resolve head).perform f.table f.prop c f.slot
    (r.2.1, { f with slot := r.2.2 })
  := by
  rw [Field.resolve_eq, Lookup.run_map]
  simp only [SlotCall.perform]
  rcases (resolveSlot head f.table f.prop f.slot).run.run c with ⟨_ | _, _⟩ <;> rfl

/-- `offset` stops where resolving fails; the slot is then empty, as resolving leaves it. -/
theorem settle_offset :
  settle ((f.offset head).run.run c) f = settle ((f.resolve head).run.run c) f
  := by
  rcases hres : (f.resolve head).run.run c with ⟨_ | ⟨_ | o, f'⟩, c'⟩
  · rw [Field.offset_run_stop head f c c' _ hres]
    rfl
  · rw [Field.offset_run_error head f c c' _ f' hres]
    rw [Field.resolve_eq, Lookup.run_map] at hres
    rcases hx : (resolveSlot head f.table f.prop f.slot).run.run c with
      ⟨_ | ⟨r, s'⟩, c''⟩ <;> rw [hx] at hres <;> cases hres
    have hs := resolveSlot_run_slot head f.table f.prop f.slot s' c _ _ hx
    simp only [Except.toOption, Option.or_none] at hs
    simp [settle, hs]
  · rw [Field.offset_run_ok head f c c' o f' hres]
    rfl

/-- A field call moves the cache and the field's slot as the slot call it makes. -/
theorem perform_eq (call : FieldCall α) :
  call.perform c f =
    call.slotCall.elim (c, f) fun sc =>
      let r := sc.perform f.table f.prop c f.slot
      (r.2.1, { f with slot := r.2.2 })
  := by
  cases call with
  | resolve head => exact settle_resolve head c f
  | offset head => exact (settle_offset head c f).trans (settle_resolve head c f)
  | tryOffset head =>
    simp only [perform, slotCall, Field.tryOffset_eq, settle_map]
    exact settle_resolve head c f
  | tryGet head cell entity =>
    cases entity with
    | none => rfl
    | some block =>
      simp only [perform, slotCall, Option.map_some, Option.elim_some]
      rw [Field.tryGet_eq, settle_map, Field.tryOffset_eq, settle_map]
      exact settle_resolve head c f
  | trySet head cell entity v =>
    cases entity with
    | none => rfl
    | some block =>
      simp only [perform, slotCall, Option.map_some, Option.elim_some]
      rw [Field.trySet_eq, settle_map, Field.tryOffset_eq, settle_map]
      exact settle_resolve head c f
  | clear => rfl

end FieldCall

/-- Calls in turn on one field: the cache and the field at the end. -/
def fieldSession {α : Type} : OffsetCache → Field → List (FieldCall α) → OffsetCache × Field
  | c, f, [] => (c, f)
  | c, f, call :: calls =>
    let r := call.perform c f
    fieldSession r.1 r.2 calls

/-- A run of accessor calls on a field moves the cache and the slot as the run of the slot calls
they make. -/
theorem fieldSession_eq_slotSession {α : Type} (calls : List (FieldCall α)) (c : OffsetCache)
    (f : Field) :
  fieldSession c f calls =
    let r := slotSession f.table f.prop c f.slot (calls.filterMap FieldCall.slotCall)
    (r.2.1, { f with slot := r.2.2 })
  := by
  induction calls generalizing c f with
  | nil => rfl
  | cons call calls ih =>
    rw [fieldSession, FieldCall.perform_eq]
    cases hs : call.slotCall with
    | none => simp [hs, ih]
    | some sc => simp [hs, ih, slotSession]

/-- A field's slot is a sticky second cache over the offset cache.  A filled slot answers its
offset to every resolution, and only the clearings change the cache.  From an empty slot, as long
as no lookup finds an offset, the slot stays empty and each resolution answers what the lookup
answers at that moment; the first lookup that finds an offset `v` fills the slot, and every later
resolution answers `v`, whatever the class list and the clearings.  Every run is one of these.
The accessors of a field inherit this: a run of them moves the cache and the slot as the
resolutions they make, `offset` answers a resolution's offset and stops where it fails,
`tryOffset`, `tryGet` and `trySet` answer through the offset resolved, and on a null entity
`tryGet` and `trySet` answer nothing without resolving. -/
theorem fieldSlot_keeps_first_found_offset :
  (∀ table prop v calls c, slotSession table prop c (some v) calls =
    (calls.map (·.filledAnswer v), if calls.any (·.isClear) then .empty else c, some v)) ∧
  (∀ table prop calls c, Unfound (offsetSession table prop c calls).1 →
    slotSession table prop c none calls =
      ((offsetSession table prop c calls).1, (offsetSession table prop c calls).2, none)) ∧
  (∀ table prop pre head post c c' v, Unfound (offsetSession table prop c pre).1 →
    (offsetAnswer head table prop).run.run (offsetSession table prop c pre).2 =
      (.ok (.ok v), c') →
    slotSession table prop c none (pre ++ .resolve head :: post) =
      ((offsetSession table prop c pre).1 ++ some (.ok (.ok v)) :: post.map (·.filledAnswer v),
        if post.any (·.isClear) then .empty else c', some v)) ∧
  (∀ table prop calls c, Unfound (offsetSession table prop c calls).1 ∨
    ∃ pre head post v c', calls = pre ++ .resolve head :: post ∧
      Unfound (offsetSession table prop c pre).1 ∧
      (offsetAnswer head table prop).run.run (offsetSession table prop c pre).2 =
        (.ok (.ok v), c')) ∧
  (∀ (α : Type) (calls : List (FieldCall α)) c f, fieldSession c f calls =
    let r := slotSession f.table f.prop c f.slot (calls.filterMap FieldCall.slotCall)
    (r.2.1, { f with slot := r.2.2 })) ∧
  (∀ head (f : Field), f.resolve head =
    (fun r => (r.1, { f with slot := r.2 })) <$> resolveSlot head f.table f.prop f.slot) ∧
  (∀ head (f : Field) c c' o f', (f.resolve head).run.run c = (.ok (.ok o, f'), c') →
    (f.offset head).run.run c = (.ok (o, f'), c')) ∧
  (∀ head (f : Field) c c' e f', (f.resolve head).run.run c = (.ok (.error e, f'), c') →
    (f.offset head).run.run c = (.error (f'.unresolved e), c')) ∧
  (∀ head (f : Field) c c' p, (f.resolve head).run.run c = (.error p, c') →
    (f.offset head).run.run c = (.error p, c')) ∧
  (∀ head (f : Field), f.tryOffset head = Prod.map Except.toOption id <$> f.resolve head) ∧
  (∀ head (f : Field) (α : Type) (cell : Cell α) block,
    f.tryGet head cell (some block) =
      Prod.map (Option.map (loadAt cell block)) id <$> f.tryOffset head ∧
    f.tryGet head cell none = pure (none, f)) ∧
  (∀ head (f : Field) (α : Type) (cell : Cell α) block v,
    f.trySet head cell (some block) v =
      Prod.map (Option.map (storeAt cell block · v)) id <$> f.tryOffset head ∧
    f.trySet head cell none v = pure (none, f))
  :=
  ⟨slotSession_filled, slotSession_unfound, fun table prop pre head post c c' v =>
    slotSession_first_found table prop pre post head c c' v,
    offsetSession_unfound_or_first_found, fun _ => fieldSession_eq_slotSession,
    Field.resolve_eq, Field.offset_run_ok, Field.offset_run_error, Field.offset_run_stop,
    Field.tryOffset_eq, fun head f _ cell block => ⟨Field.tryGet_eq head f cell block,
      Field.tryGet_null head f cell⟩, fun head f _ cell block v =>
    ⟨Field.trySet_eq head f cell block v, Field.trySet_null head f cell v⟩⟩

/-- A client with one class, whose table `DT_Player` has `m_iHealth` at offset 8. -/
def healthRegistry : Registry where
  arena := ⟨[⟨some "DT_Player".toUTF8.toList, [⟨some "m_iHealth".toUTF8.toList, 0, 8, none⟩]⟩]⟩
  classes := [⟨some "CPlayer".toUTF8.toList, some 0, 1⟩]

/-- Resolving `DT_Player.m_iHealth` without a class list fails; against the client it finds 8;
after a clearing and without a class list again, the slot still answers 8. -/
theorem fieldSlot_answers_after_clear :
  Unfound (offsetSession "DT_Player" "m_iHealth" .empty [.resolve (.error .notInitialized)]).1 ∧
    (offsetAnswer (.ok healthRegistry) "DT_Player" "m_iHealth").run.run
        (offsetSession "DT_Player" "m_iHealth" .empty [.resolve (.error .notInitialized)]).2 =
      (.ok (.ok 8), OffsetCache.empty.insert "DT_Player" "m_iHealth" ⟨8, some .int⟩) ∧
    slotSession "DT_Player" "m_iHealth" .empty none
        ([.resolve (.error .notInitialized)] ++
          .resolve (.ok healthRegistry) :: [.clear, .resolve (.error .notInitialized)]) =
      ((offsetSession "DT_Player" "m_iHealth" .empty [.resolve (.error .notInitialized)]).1 ++
          some (.ok (.ok 8)) ::
            [SlotCall.clear, .resolve (.error .notInitialized)].map (·.filledAnswer 8),
        if [SlotCall.clear, .resolve (.error .notInitialized)].any (·.isClear) then .empty
        else OffsetCache.empty.insert "DT_Player" "m_iHealth" ⟨8, some .int⟩, some 8)
  := by
  have hpre : Unfound
      (offsetSession "DT_Player" "m_iHealth" .empty [.resolve (.error .notInitialized)]).1 := by
    decide
  have hfound : (offsetAnswer (.ok healthRegistry) "DT_Player" "m_iHealth").run.run
      (offsetSession "DT_Player" "m_iHealth" .empty [.resolve (.error .notInitialized)]).2 =
        (.ok (.ok 8), OffsetCache.empty.insert "DT_Player" "m_iHealth" ⟨8, some .int⟩) := by
    cbv
  exact ⟨hpre, hfound, fieldSlot_keeps_first_found_offset.2.2.1 _ _ _ _ _ _ _ _ hpre hfound⟩

end EngineSdk.Netvar
