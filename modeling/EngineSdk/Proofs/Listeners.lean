import Mathlib
import EngineSdk.Listener.Dispatch

/-!
# Listeners over whole runs

What the registry answers is fixed by what happened before, read off the history alone and not
off the registry:

* a key is live with a kind (`ListenerLog.Live`) when a registration handed it out for that kind
  and nothing after it removed that key or cleared the registry;
* a registration hands out a key never handed out before, a removal finds a listener exactly
  when its key is live, a count is the number of live keys, and a fire calls each live listener
  of its kind once and no other (`ListenerLog.Answers`).

`ListenerLog.Sound` says that every entry of a history answers so, given the history before it.
The run keeps one invariant (`Tracks`): the registry holds exactly the live listeners, each key
once, its next key lies above every key handed out, and its free slots hold no listener
(`FreeSlots`).  Filling a free slot then adds one listener to the others, and emptying a taken
slot takes one out, whatever the slots' order (`live_register_perm`, `live_remove_perm`).  Each
operation keeps the invariant and answers soundly (`Tracks.register`, `Tracks.remove`, ...); a
fire takes its snapshot before any callback runs, and the callbacks are runs of their own, so
`exec_sound` follows by induction over the code and the callbacks nested in it.
`exec_answers_by_history` is the result for every run from the empty registry.
-/

namespace EngineSdk

namespace ListenerLog

/-- The entry ends the listener of `key`: a removal of that key, or a clear. -/
def ends (key : Nat) : ListenerLog → Bool
  | .removed k _ => k == key
  | .cleared => true
  | _ => false

/-- After the history `h`, the listener of `key` is live with `kind`: a registration handed the
key out for that kind, and no later entry removed the key or cleared the registry. -/
def Live (h : List ListenerLog) (key : Nat) (kind : ListenerKind) : Prop :=
  ∃ pre post, h = pre ++ .registered key kind :: post ∧ ∀ x ∈ post, x.ends key = false

/-- What an entry must answer after the history `h`. -/
def Answers (h : List ListenerLog) : ListenerLog → Prop
  | .registered key _ => ∀ kind, .registered key kind ∉ h
  | .removed key found => (found = true ↔ ∃ kind, Live h key kind)
  | .cleared => True
  | .counted n => n = {key | ∃ kind, Live h key kind}.ncard
  | .fired e calls => calls.Nodup ∧ ∀ key, key ∈ calls ↔ Live h key e.kind

/-- Every entry of the history answers as the history before it requires. -/
def Sound (h : List ListenerLog) : Prop :=
  ∀ pre x post, h = pre ++ x :: post → Answers pre x

/-! ### The history, one entry longer -/

theorem not_live_nil (key : Nat) (kind : ListenerKind) : ¬ Live [] key kind := by
  rintro ⟨pre, post, h, -⟩
  simp at h

theorem Live.registered_mem {h : List ListenerLog} {key : Nat} {kind : ListenerKind}
    (hl : Live h key kind) : .registered key kind ∈ h
  := by
  obtain ⟨pre, post, rfl, -⟩ := hl
  simp

/-- A listener is live after one more entry when it was live and the entry does not end it, or
the entry registers it. -/
theorem live_snoc {h : List ListenerLog} {x : ListenerLog} {key : Nat} {kind : ListenerKind} :
    Live (h ++ [x]) key kind ↔ Live h key kind ∧ x.ends key = false ∨ x = .registered key kind
  := by
  constructor
  · rintro ⟨pre, post, heq, hpost⟩
    rcases List.eq_nil_or_concat' post with rfl | ⟨post', y, rfl⟩
    · obtain ⟨-, hx⟩ := List.append_inj' heq rfl
      exact .inr (List.singleton_inj.mp hx)
    · rw [← List.cons_append, ← List.append_assoc] at heq
      obtain ⟨rfl, hx⟩ := List.append_inj' heq rfl
      obtain rfl := List.singleton_inj.mp hx
      refine .inl ⟨⟨pre, post', rfl, fun z hz => hpost z (by simp [hz])⟩, hpost x (by simp)⟩
  · rintro (⟨⟨pre, post, rfl, hpost⟩, hx⟩ | rfl)
    · refine ⟨pre, post ++ [x], by simp, fun z hz => ?_⟩
      rcases List.mem_append.mp hz with hz | hz
      · exact hpost z hz
      · rw [List.mem_singleton.mp hz]
        exact hx
    · exact ⟨h, [], rfl, by simp⟩

/-- An entry that registers nothing adds no registration to the history. -/
theorem registered_mem_of_snoc {h : List ListenerLog} {x : ListenerLog}
    (hx : ∀ key kind, x ≠ .registered key kind) {key : Nat} {kind : ListenerKind}
    (hm : ListenerLog.registered key kind ∈ h ++ [x]) : ListenerLog.registered key kind ∈ h
  := by
  rcases List.mem_append.mp hm with hm | hm
  · exact hm
  · exact absurd (List.mem_singleton.mp hm).symm (hx key kind)

/-- A history one entry longer is sound when the history is and the entry answers after it. -/
theorem sound_snoc {h : List ListenerLog} {x : ListenerLog} :
  Sound (h ++ [x]) ↔ Sound h ∧ Answers h x
  := by
  constructor
  · intro hs
    refine ⟨fun pre y post heq => hs pre y (post ++ [x]) (by simp [heq]), hs h x [] rfl⟩
  · rintro ⟨hs, hx⟩ pre y post heq
    rcases List.eq_nil_or_concat' post with rfl | ⟨post', z, rfl⟩
    · obtain ⟨rfl, hy⟩ := List.append_inj' heq rfl
      rw [List.singleton_inj.mp hy] at hx
      exact hx
    · rw [← List.cons_append, ← List.append_assoc] at heq
      obtain ⟨rfl, -⟩ := List.append_inj' heq rfl
      exact hs pre y post' rfl

end ListenerLog

open ListenerLog

/-! ### Slots -/

section Slots

variable {β : Type}

/-- Emptying a taken slot keeps the other entries: the entries before are those after, with the
slot's entry added. -/
theorem filterMap_perm_set_none {l : List (Option β)} {j : Nat} {y : β}
    (h : l[j]? = some (some y)) : (l.filterMap id).Perm ((l.set j none).filterMap id ++ [y])
  := by
  induction l generalizing j with
  | nil => simp at h
  | cons a l ih =>
    cases j with
    | zero =>
      obtain rfl : a = some y := by simpa using h
      simpa using (List.perm_append_singleton y (l.filterMap id)).symm
    | succ j =>
      have h' : l[j]? = some (some y) := by simpa using h
      cases a with
      | none => simpa using ih h'
      | some a => simpa using (ih h').cons a

/-- Filling a free slot adds its entry to the others. -/
theorem filterMap_perm_set_some {l : List (Option β)} {j : Nat} (x : β) (h : l[j]? = some none) :
  ((l.set j (some x)).filterMap id).Perm (l.filterMap id ++ [x])
  := by
  have hj : j < l.length := (List.getElem?_eq_some_iff.mp h).1
  have hback : (l.set j (some x)).set j none = l := by
    rw [List.set_set]
    apply List.ext_getElem?
    intro i
    by_cases hi : j = i
    · subst hi
      rw [List.getElem?_set_self hj, h]
    · rw [List.getElem?_set, if_neg hi]
  have hperm := filterMap_perm_set_none (l := l.set j (some x)) (j := j) (y := x)
    (List.getElem?_set_self (by simpa using hj))
  rwa [hback] at hperm

/-- Setting a slot outside a list of free slots keeps those free. -/
theorem vacant_set {l : List (Option β)} {free : List Nat} (hv : ∀ i ∈ free, l[i]? = some none)
    {j : Nat} (hj : j ∉ free) (v : Option β) : ∀ i ∈ free, (l.set j v)[i]? = some none
  := by
  intro i hi
  have hji : j ≠ i := fun e => hj (e ▸ hi)
  rw [List.getElem?_set, if_neg hji]
  exact hv i hi

end Slots

namespace ListenerRegistry

/-- Every free slot holds no listener, and no slot is free twice. -/
structure FreeSlots (r : ListenerRegistry) : Prop where
  vacant : ∀ j ∈ r.free, r.slots[j]? = some none
  nodup : r.free.Nodup

theorem freeSlots_empty : empty.FreeSlots := ⟨by simp [empty], by simp [empty]⟩

variable {r : ListenerRegistry}

/-- A slot that holds a listener is not free. -/
theorem FreeSlots.not_mem_free (hr : r.FreeSlots) {j : Nat} {x : Nat × ListenerKind}
    (hx : r.slots[j]? = some (some x)) : j ∉ r.free
  := by
  intro hm
  have := hr.vacant j hm
  rw [hx] at this
  cases this

theorem key_register (k : ListenerKind) : (r.register k).1 = r.nextKey := by
  unfold register
  cases r.free <;> rfl

theorem nextKey_register (k : ListenerKind) : (r.register k).2.nextKey = r.nextKey + 1 := by
  unfold register
  cases r.free <;> rfl

/-- A registration adds its listener to the others, in the slot freed last or in a new one. -/
theorem live_register_perm (hr : r.FreeSlots) (k : ListenerKind) :
  (r.register k).2.live.Perm (r.live ++ [(r.nextKey, k)])
  := by
  unfold register
  cases hf : r.free with
  | nil => simp [live, List.filterMap_append]
  | cons j rest => exact filterMap_perm_set_some _ (hr.vacant j (by simp [hf]))

theorem freeSlots_register (hr : r.FreeSlots) (k : ListenerKind) : (r.register k).2.FreeSlots := by
  obtain ⟨hvacant, hnodup⟩ := hr
  unfold register
  cases hf : r.free with
  | nil => exact ⟨by simp, by simp⟩
  | cons j rest =>
    rw [hf] at hvacant hnodup
    obtain ⟨hj, hrest⟩ := List.nodup_cons.mp hnodup
    exact ⟨vacant_set (fun i hi => hvacant i (List.mem_cons_of_mem j hi)) hj _, hrest⟩

theorem slotOf?_eq_some {key j : Nat} (h : r.slotOf? key = some j) :
  ∃ kind, r.slots[j]? = some (some (key, kind))
  := by
  obtain ⟨hj, hp, -⟩ := List.findIdx?_eq_some_iff_getElem.mp h
  rw [List.getElem?_eq_getElem hj]
  cases hs : r.slots[j] with
  | none => simp [hs] at hp
  | some l =>
    have hk : l.1 = key := by simpa [hs] using hp
    exact ⟨l.2, by rw [← hk]⟩

theorem slotOf?_eq_none_iff {key : Nat} :
  r.slotOf? key = none ↔ ∀ kind, (key, kind) ∉ r.live
  := by
  rw [slotOf?, List.findIdx?_eq_none_iff]
  constructor
  · intro h kind hm
    obtain ⟨s, hs, hsome⟩ := List.mem_filterMap.mp hm
    obtain rfl : s = some (key, kind) := hsome
    have := h _ hs
    simp at this
  · intro h s hs
    cases s with
    | none => rfl
    | some l =>
      have hl : l ∈ r.live := List.mem_filterMap.mpr ⟨some l, hs, rfl⟩
      simp only [Option.any_some, beq_eq_false_iff_ne, ne_eq]
      rintro rfl
      exact h l.2 hl

theorem remove_of_slotOf?_eq_none {key : Nat} (h : r.slotOf? key = none) : (r.remove key).2 = r := by
  simp [remove, h]

theorem remove_found (key : Nat) : (r.remove key).1 = (r.slotOf? key).isSome := by
  unfold remove
  cases r.slotOf? key <;> rfl

theorem nextKey_remove (key : Nat) : (r.remove key).2.nextKey = r.nextKey := by
  unfold remove
  cases r.slotOf? key <;> rfl

/-- A removal that finds its key's slot takes that listener out of the others. -/
theorem live_remove_perm {key j : Nat} (h : r.slotOf? key = some j) :
  ∃ kind, r.live.Perm ((r.remove key).2.live ++ [(key, kind)])
  := by
  obtain ⟨kind, hj⟩ := slotOf?_eq_some h
  refine ⟨kind, ?_⟩
  simp only [remove, h, live]
  exact filterMap_perm_set_none hj

/-- A removal keeps the keys distinct. -/
theorem nodup_remove (hnd : (r.live.map (·.1)).Nodup) (key : Nat) :
  ((r.remove key).2.live.map (·.1)).Nodup
  := by
  cases hj : r.slotOf? key with
  | none =>
    rw [remove_of_slotOf?_eq_none hj]
    exact hnd
  | some j =>
    obtain ⟨kind, hperm⟩ := live_remove_perm hj
    rw [(hperm.map (·.1)).nodup_iff, List.map_append] at hnd
    exact (List.nodup_append.mp hnd).1

theorem freeSlots_remove (hr : r.FreeSlots) (key : Nat) : (r.remove key).2.FreeSlots := by
  unfold remove
  cases h : r.slotOf? key with
  | none => exact hr
  | some j =>
    obtain ⟨kind, hj⟩ := slotOf?_eq_some h
    have hjlt : j < r.slots.length := (List.getElem?_eq_some_iff.mp hj).1
    have hjfree := hr.not_mem_free hj
    refine ⟨fun i hi => ?_, List.nodup_cons.mpr ⟨hjfree, hr.nodup⟩⟩
    rcases List.mem_cons.mp hi with rfl | hi
    · exact List.getElem?_set_self hjlt
    · exact vacant_set hr.vacant hjfree none i hi

theorem mem_taken {j : Nat} : j ∈ r.taken ↔ ∃ x, r.slots[j]? = some (some x) := by
  simp only [taken, List.mem_filter, List.mem_range]
  constructor
  · rintro ⟨hj, hx⟩
    obtain ⟨x, hx⟩ := Option.isSome_iff_exists.mp hx
    exact ⟨x, by simpa [List.getElem?_eq_getElem hj] using hx⟩
  · rintro ⟨x, hx⟩
    exact ⟨(List.getElem?_eq_some_iff.mp hx).1, by simp [hx]⟩

theorem freeSlots_clear (hr : r.FreeSlots) : r.clear.FreeSlots := by
  have hlt : ∀ j ∈ r.taken.reverse ++ r.free, j < r.slots.length := by
    intro j hj
    rcases List.mem_append.mp hj with hj | hj
    · obtain ⟨x, hx⟩ := mem_taken.mp (List.mem_reverse.mp hj)
      exact (List.getElem?_eq_some_iff.mp hx).1
    · exact (List.getElem?_eq_some_iff.mp (hr.vacant j hj)).1
  refine ⟨fun j hj => by simp [clear, hlt j hj], ?_⟩
  refine List.nodup_append.mpr ⟨List.nodup_reverse.mpr ((List.nodup_range).filter _), hr.nodup,
    fun i hi j hj hij => ?_⟩
  obtain ⟨x, hx⟩ := mem_taken.mp (List.mem_reverse.mp hi)
  exact hr.not_mem_free hx (hij ▸ hj)

/-! ### Keeping track of the history -/

/-- The registry holds exactly the listeners live after `h`, each key once, its next key lies
above every key handed out in `h`, and its free slots hold nothing. -/
structure Tracks (r : ListenerRegistry) (h : List ListenerLog) : Prop where
  mem_live : ∀ key kind, (key, kind) ∈ r.live ↔ Live h key kind
  nodup : (r.live.map (·.1)).Nodup
  issued_lt : ∀ key kind, ListenerLog.registered key kind ∈ h → key < r.nextKey
  freeSlots : r.FreeSlots

theorem tracks_empty : Tracks empty [] where
  mem_live key kind := by simp [empty, live, not_live_nil]
  nodup := by simp [empty, live]
  issued_lt := by simp
  freeSlots := freeSlots_empty

variable {h : List ListenerLog}

theorem Tracks.mem_keys (t : Tracks r h) {key : Nat} :
  key ∈ r.live.map (·.1) ↔ ∃ kind, Live h key kind
  := by
  simp only [List.mem_map, Prod.exists, exists_and_right, exists_eq_right]
  exact exists_congr fun kind => t.mem_live key kind

/-- Out of listeners with distinct keys, those left when one is taken out are those with another
key. -/
theorem mem_of_perm_append_singleton {L L' : List (Nat × ListenerKind)} {y : Nat × ListenerKind}
    (hp : L.Perm (L' ++ [y])) (hnd : (L.map (·.1)).Nodup) (x : Nat × ListenerKind) :
  x ∈ L' ↔ x ∈ L ∧ x.1 ≠ y.1
  := by
  have hnd' := (hp.map (·.1)).nodup_iff.mp hnd
  rw [List.map_append, List.map_singleton, List.nodup_append] at hnd'
  constructor
  · intro hx
    exact ⟨hp.mem_iff.mpr (List.mem_append_left _ hx),
      hnd'.2.2 _ (List.mem_map_of_mem hx) _ (List.mem_singleton_self _)⟩
  · rintro ⟨hx, hne⟩
    rcases List.mem_append.mp (hp.mem_iff.mp hx) with hx | hx
    · exact hx
    · exact absurd (congrArg Prod.fst (List.mem_singleton.mp hx)) hne

/-- An entry that neither registers nor ends a listener changes nothing the registry tracks. -/
theorem Tracks.snoc_quiet (t : Tracks r h) {x : ListenerLog} (hend : ∀ key, x.ends key = false)
    (hreg : ∀ key kind, x ≠ .registered key kind) : Tracks r (h ++ [x]) where
  mem_live key kind := by
    rw [t.mem_live, live_snoc]
    simp [hend key, hreg key kind]
  nodup := t.nodup
  issued_lt key kind hm := t.issued_lt key kind (registered_mem_of_snoc hreg hm)
  freeSlots := t.freeSlots

/-- A registration hands out a key never handed out before, and the registry then holds it. -/
theorem Tracks.register (t : Tracks r h) (kind : ListenerKind) :
  Answers h (.registered (r.register kind).1 kind) ∧
    Tracks (r.register kind).2 (h ++ [.registered (r.register kind).1 kind])
  := by
  have fresh : ∀ kind', ListenerLog.registered r.nextKey kind' ∉ h :=
    fun kind' hm => Nat.lt_irrefl _ (t.issued_lt _ kind' hm)
  have hperm := live_register_perm t.freeSlots kind
  rw [key_register]
  refine ⟨fresh, ⟨fun key kind' => ?_, ?_, fun key kind' hm => ?_,
    freeSlots_register t.freeSlots kind⟩⟩
  · rw [hperm.mem_iff, List.mem_append, List.mem_singleton, Prod.mk.injEq, t.mem_live, live_snoc]
    simp only [ends, and_true, ListenerLog.registered.injEq]
    exact or_congr_right ⟨fun ⟨a, b⟩ => ⟨a.symm, b.symm⟩, fun ⟨a, b⟩ => ⟨a.symm, b.symm⟩⟩
  · rw [(hperm.map (·.1)).nodup_iff, List.map_append, List.map_singleton]
    refine List.nodup_append.mpr ⟨t.nodup, List.nodup_singleton _, ?_⟩
    intro key hk key' hk' heq
    obtain rfl := List.mem_singleton.mp hk'
    obtain ⟨kind', hl⟩ := t.mem_keys.mp hk
    subst heq
    exact fresh kind' hl.registered_mem
  · rw [nextKey_register]
    rcases List.mem_append.mp hm with hm | hm
    · exact Nat.lt_succ_of_lt (t.issued_lt key kind' hm)
    · cases List.mem_singleton.mp hm
      exact Nat.lt_succ_self _

/-- After a removal the registry holds the listeners it held, but the one of the key removed. -/
theorem Tracks.mem_remove (t : Tracks r h) (key key' : Nat) (kind : ListenerKind) :
  (key', kind) ∈ (r.remove key).2.live ↔ (key', kind) ∈ r.live ∧ key' ≠ key
  := by
  cases hj : r.slotOf? key with
  | none =>
    rw [remove_of_slotOf?_eq_none hj]
    refine ⟨fun hm => ⟨hm, ?_⟩, fun hm => hm.1⟩
    rintro rfl
    exact slotOf?_eq_none_iff.mp hj kind hm
  | some j =>
    obtain ⟨kind₀, hperm⟩ := live_remove_perm hj
    exact mem_of_perm_append_singleton hperm t.nodup (key', kind)

/-- A removal finds a listener exactly when its key is live, and then only that key goes. -/
theorem Tracks.remove (t : Tracks r h) (key : Nat) :
  Answers h (.removed key (r.remove key).1) ∧
    Tracks (r.remove key).2 (h ++ [.removed key (r.remove key).1])
  := by
  refine ⟨?_, ⟨fun key' kind => ?_, ?_, fun key' kind hm => ?_, freeSlots_remove t.freeSlots key⟩⟩
  · show (r.remove key).1 = true ↔ _
    rw [remove_found, Option.isSome_iff_ne_none, Ne, slotOf?_eq_none_iff, not_forall_not]
    exact exists_congr fun kind => t.mem_live key kind
  · rw [t.mem_remove, t.mem_live, live_snoc]
    simp only [ends, beq_eq_false_iff_ne, ne_eq, reduceCtorEq, or_false]
    exact and_congr_right fun _ => not_congr eq_comm
  · exact nodup_remove t.nodup key
  · rw [nextKey_remove]
    exact t.issued_lt key' kind (registered_mem_of_snoc (by simp) hm)

/-- A clear leaves no listener live. -/
theorem Tracks.clear (t : Tracks r h) : Tracks r.clear (h ++ [.cleared]) where
  mem_live key kind := by
    rw [live_snoc, live_clear]
    simp [ends]
  nodup := by simp [live_clear]
  issued_lt key kind hm := t.issued_lt key kind (registered_mem_of_snoc (by simp) hm)
  freeSlots := freeSlots_clear t.freeSlots

/-- A count is the number of live keys. -/
theorem Tracks.answers_count (t : Tracks r h) : Answers h (.counted r.count) := by
  have hset : {key | ∃ kind, Live h key kind} = ↑(r.live.map (·.1)).toFinset := by
    ext key
    simp only [Set.mem_ofPred_eq, Finset.mem_coe, List.mem_toFinset]
    exact t.mem_keys.symm
  show r.live.length = _
  rw [hset, Set.ncard_coe_finset, List.toFinset_card_of_nodup t.nodup, List.length_map]

/-- A fire's snapshot holds each live listener of its kind once, and nothing else. -/
theorem Tracks.answers_fire (t : Tracks r h) (e : Event) : Answers h (.fired e (r.fire e)) := by
  refine ⟨(List.filter_sublist.map _).nodup t.nodup, fun key => ?_⟩
  simp only [ListenerRegistry.fire, List.mem_map, List.mem_filter, beq_iff_eq, Prod.exists,
    exists_and_right, exists_eq_right]
  rw [← t.mem_live]

/-! ### Runs -/

/-- One more entry that answers soundly keeps a tracked history sound. -/
theorem sound_step {h : List ListenerLog} {x : ListenerLog} {r' : ListenerRegistry}
    (hs : Sound h) (hx : Answers h x) (t : Tracks r' (h ++ [x])) :
  Tracks r' (h ++ [x]) ∧ Sound (h ++ [x])
  :=
  ⟨t, sound_snoc.mpr ⟨hs, hx⟩⟩

mutual

/-- Running code keeps the registry tracking a sound history. -/
theorem exec_sound (r : ListenerRegistry) (h : List ListenerLog) :
    (p : List ListenerCode) → Tracks r h → Sound h →
      Tracks (r.exec p).2 (h ++ (r.exec p).1) ∧ Sound (h ++ (r.exec p).1)
  | [], t, hs => by simpa [exec] using ⟨t, hs⟩
  | c :: cs, t, hs => by
    obtain ⟨t₁, hs₁⟩ := run_sound r h c t hs
    obtain ⟨t₂, hs₂⟩ := exec_sound (r.run c).2 (h ++ (r.run c).1) cs t₁ hs₁
    simpa [exec] using And.intro t₂ hs₂

/-- One call keeps the registry tracking a sound history; a fire's callbacks run after its
snapshot is written down. -/
theorem run_sound (r : ListenerRegistry) (h : List ListenerLog) :
    (c : ListenerCode) → Tracks r h → Sound h →
      Tracks (r.run c).2 (h ++ (r.run c).1) ∧ Sound (h ++ (r.run c).1)
  | .register kind, t, hs => by
    obtain ⟨hx, t'⟩ := t.register kind
    exact sound_step hs hx t'
  | .remove key, t, hs => by
    obtain ⟨hx, t'⟩ := t.remove key
    exact sound_step hs hx t'
  | .clear, t, hs => sound_step hs trivial t.clear
  | .count, t, hs =>
    sound_step hs t.answers_count (t.snoc_quiet (fun _ => rfl) (fun _ _ => nofun))
  | .fire e callbacks, t, hs => by
    obtain ⟨t₁, hs₁⟩ := sound_step hs (t.answers_fire e)
      (t.snoc_quiet (fun _ => rfl) (fun _ _ => nofun))
    obtain ⟨t₂, hs₂⟩ := callEach_sound r _ (r.fire e) callbacks t₁ hs₁
    simpa [run] using And.intro t₂ hs₂

/-- Calling the listeners of a snapshot in turn keeps the registry tracking a sound history. -/
theorem callEach_sound (r : ListenerRegistry) (h : List ListenerLog) (keys : List Nat) :
    (bodies : List (List ListenerCode)) → Tracks r h → Sound h →
      Tracks (r.callEach keys bodies).2 (h ++ (r.callEach keys bodies).1) ∧
        Sound (h ++ (r.callEach keys bodies).1)
  | [], t, hs => by
    cases keys <;> simpa [callEach] using ⟨t, hs⟩
  | body :: bodies, t, hs => by
    cases keys with
    | nil => simpa [callEach] using ⟨t, hs⟩
    | cons _ keys =>
      obtain ⟨t₁, hs₁⟩ := exec_sound r h body t hs
      obtain ⟨t₂, hs₂⟩ := callEach_sound (r.exec body).2 (h ++ (r.exec body).1) keys bodies t₁ hs₁
      simpa [callEach] using And.intro t₂ hs₂

end

/-- **Listeners over whole runs.**  Whatever code runs on the registry from its empty start,
callbacks that use the registry while a fire is running included: every registration hands out
a key never handed out before; every removal finds a listener exactly when its key was handed out
and has not been removed or cleared since, and then ends only that listener; every count, and
the count at the end, is the number of live keys; and every fire calls each live listener of its
event's kind at the moment it takes its snapshot once, with its event, and no other listener. -/
theorem exec_answers_by_history (p : List ListenerCode) :
    Sound (empty.exec p).1 ∧
      (empty.exec p).2.count = {key | ∃ kind, Live (empty.exec p).1 key kind}.ncard
  := by
  obtain ⟨t, hs⟩ := exec_sound empty [] p tracks_empty (by simp [Sound])
  rw [List.nil_append] at t hs
  exact ⟨hs, t.answers_count⟩

/-- A listener registered inside a callback is not called by the fire that is running it, and the
next fire calls both. -/
example :
    (empty.exec [.register .levelShutdown, .fire .levelShutdown [[.register .levelShutdown]],
      .fire .levelShutdown []]).1 =
      [.registered 0 .levelShutdown, .fired .levelShutdown [0], .registered 1 .levelShutdown,
        .fired .levelShutdown [0, 1]] := by
  decide

/-- A listener registered after a removal takes the slot freed, so a fire calls it first. -/
example :
    (empty.exec [.register .levelShutdown, .register .levelShutdown, .remove 0,
      .register .levelShutdown, .fire .levelShutdown []]).1 =
      [.registered 0 .levelShutdown, .registered 1 .levelShutdown, .removed 0 true,
        .registered 2 .levelShutdown, .fired .levelShutdown [2, 1]] := by
  decide

end ListenerRegistry

end EngineSdk
