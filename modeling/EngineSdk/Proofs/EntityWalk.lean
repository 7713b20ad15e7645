import Mathlib
import EngineSdk.Api.EntityList

/-!
# Walking the entity list

An `EntityWalk` over a list is called again and again; each call looks up the slots from its
cursor on, up to the highest index, until one is occupied, and moves the cursor past each slot,
in 32-bit signed arithmetic, before looking it up.

* One call is described by four lemmas, one for each thing it can do: report the end when the
  cursor is past the highest index (`next_of_highest_lt`), find the slot under the cursor
  (`next_of_occupied`), pass over an empty slot (`next_of_empty`), or stop when the cursor is the
  largest 32-bit value (`next_of_max`).
* `Yields` says that successive calls yield given slots, one a call, look up given slots in
  all, and then report the end from a walk that reports it forever after; `Stops` that they
  yield given slots and then stop the run.
* From a highest index below the largest 32-bit value, the walk yields the occupied slots in
  increasing order, looking up every slot from `0` to the highest index once, in order, and then
  reports the end forever (`yields_occupied`).  From the largest 32-bit value on, it yields the
  occupied slots below that value and then stops (`stops_at_max`).
  `yields_entries` and `stops_entries` state both for the walk over a list, and
  `walked_agrees` shows that `EntityList.walked` is what the calls give.
-/

namespace EngineSdk

namespace EntityList

variable {ε : Type}

/-- The slots `c`, `c + 1`, ..., `h`. -/
def slots (c h : Int) : List Int := (List.range (h + 1 - c).toNat).map fun k : Nat => c + k

/-- The occupied slots from `c` to `h`, with their entities, in increasing order. -/
def occupied (l : EntityList ε) (c h : Int) : List (Int × ε) :=
  (slots c h).filterMap fun i => (l.get i).map (i, ·)

theorem slots_of_lt {c h : Int} (hlt : h < c) : slots c h = [] := by
  simp [slots, show (h + 1 - c).toNat = 0 by omega]

theorem slots_cons {c h : Int} (hle : c ≤ h) : slots c h = c :: slots (c + 1) h := by
  have hn : (h + 1 - c).toNat = (h + 1 - (c + 1)).toNat + 1 := by omega
  rw [slots, hn, List.range_succ_eq_map, List.map_cons, List.map_map, slots]
  refine congrArg₂ _ (by simp) (List.map_congr_left fun k _ => ?_)
  simp only [Function.comp_apply, Nat.cast_succ]
  ring

theorem mem_slots {c h i : Int} : i ∈ slots c h ↔ c ≤ i ∧ i ≤ h := by
  simp only [slots, List.mem_map, List.mem_range]
  constructor
  · rintro ⟨k, hk, rfl⟩
    omega
  · rintro ⟨hc, hh⟩
    exact ⟨(i - c).toNat, by omega, by omega⟩

/-- The slots up to `h` are those up to `b` and then those after it. -/
theorem slots_append {c b h : Int} (hcb : c ≤ b + 1) (hbh : b ≤ h) :
  slots c h = slots c b ++ slots (b + 1) h
  := by
  have hn : (h + 1 - c).toNat = (b + 1 - c).toNat + (h + 1 - (b + 1)).toNat := by omega
  rw [slots, hn, List.range_add, List.map_append, List.map_map, slots, slots]
  refine congrArg _ (List.map_congr_left fun k _ => ?_)
  simp only [Function.comp_apply, Nat.cast_add]
  omega

variable (l : EntityList ε)

theorem occupied_of_lt {c h : Int} (hlt : h < c) : l.occupied c h = [] := by
  simp [occupied, slots_of_lt hlt]

theorem occupied_cons_of_get {c h : Int} (hle : c ≤ h) {e : ε} (he : l.get c = some e) :
  l.occupied c h = (c, e) :: l.occupied (c + 1) h
  := by
  rw [occupied, slots_cons hle, List.filterMap_cons, he]
  rfl

theorem occupied_of_get_eq_none {c h : Int} (hle : c ≤ h) (he : l.get c = none) :
  l.occupied c h = l.occupied (c + 1) h
  := by
  rw [occupied, slots_cons hle, List.filterMap_cons, he]
  rfl

theorem lt_of_mem_occupied {c h : Int} {x : Int × ε} (hx : x ∈ l.occupied c h) : x.1 ≤ h := by
  obtain ⟨i, hi, hx⟩ := List.mem_filterMap.mp hx
  obtain ⟨e, -, rfl⟩ := Option.map_eq_some_iff.mp hx
  exact (mem_slots.mp hi).2

theorem le_of_mem_occupied {c h : Int} {x : Int × ε} (hx : x ∈ l.occupied c h) : c ≤ x.1 := by
  obtain ⟨i, hi, hx⟩ := List.mem_filterMap.mp hx
  obtain ⟨e, -, rfl⟩ := Option.map_eq_some_iff.mp hx
  exact (mem_slots.mp hi).1

/-- The list's entries are its occupied slots from `0` to the highest index. -/
theorem entries_eq_occupied : l.entries = l.occupied 0 l.highestIndex := by
  simp [entries, occupied, slots, List.filterMap_map]

/-- The entries below a bound that the highest index reaches are the occupied slots below it. -/
theorem entries_filter_lt {b : Int} (hb : 0 ≤ b) (hbh : b ≤ l.highestIndex) :
  l.entries.filter (·.1 < b) = l.occupied 0 (b - 1)
  := by
  rw [entries_eq_occupied, occupied, slots_append (b := b - 1) (by omega) (by omega),
    List.filterMap_append, List.filter_append, ← occupied, ← occupied, sub_add_cancel]
  have hlow : (l.occupied 0 (b - 1)).filter (·.1 < b) = l.occupied 0 (b - 1) := by
    rw [List.filter_eq_self]
    intro x hx
    have := l.lt_of_mem_occupied hx
    simp only [decide_eq_true_eq]
    omega
  have hhigh : (l.occupied b l.highestIndex).filter (·.1 < b) = [] := by
    rw [List.filter_eq_nil_iff]
    intro x hx
    have := l.le_of_mem_occupied hx
    simp only [decide_eq_true_eq]
    omega
  rw [hlow, hhigh, List.append_nil]

end EntityList

namespace EntityWalk

variable {ε : Type} (l : EntityList ε)

/-! ### One call -/

section Call

variable {c h : Int}

/-- A walk whose cursor is past the highest index reports the end and stays as it is. -/
theorem next_of_highest_lt (hlt : h < c) : next l ⟨c, h⟩ = .ok ⟨none, [], ⟨c, h⟩⟩ := by
  rw [next, dif_neg (by simpa using hlt)]

theorem addSigned_succ (h0 : 0 ≤ c) (hM : c < 2147483647) :
  Panic.addSigned 32 c 1 = .ok (c + 1)
  := by
  have hbound : Nat.pow 2 (32 - 1) = 2147483648 := rfl
  simp only [Panic.addSigned, hbound]
  rw [if_neg (by omega)]

/-- Below the largest 32-bit value, a call moves the cursor one slot on and then looks up the
slot it left: it finds an occupied one, or calls on from the next slot. -/
theorem next_of_lt_max (h0 : 0 ≤ c) (hle : c ≤ h) (hM : c < 2147483647) :
  next l ⟨c, h⟩ = (l.get c).elim
    ((next l ⟨c + 1, h⟩).map fun s => { s with asked := c :: s.asked })
    (fun e => .ok ⟨some (c, e), [c], ⟨c + 1, h⟩⟩)
  := by
  rw [next, dif_pos hle]
  split
  · rename_i p hp
    rw [addSigned_succ h0 hM] at hp
    cases hp
  · rename_i c' hc'
    rw [addSigned_succ h0 hM] at hc'
    cases hc'
    cases l.get c <;> rfl

/-- A call finds an occupied slot under the cursor below the largest 32-bit value. -/
theorem next_of_occupied (h0 : 0 ≤ c) (hle : c ≤ h) (hM : c < 2147483647) {e : ε}
    (he : l.get c = some e) : next l ⟨c, h⟩ = .ok ⟨some (c, e), [c], ⟨c + 1, h⟩⟩
  := by
  rw [next_of_lt_max l h0 hle hM, he]
  rfl

/-- A call passes over an empty slot under the cursor below the largest 32-bit value, looking
it up first. -/
theorem next_of_empty (h0 : 0 ≤ c) (hle : c ≤ h) (hM : c < 2147483647) (he : l.get c = none) :
  next l ⟨c, h⟩ = (next l ⟨c + 1, h⟩).map fun s => { s with asked := c :: s.asked }
  := by
  rw [next_of_lt_max l h0 hle hM, he]
  rfl

/-- A call whose cursor is the largest 32-bit value, not past the highest index, stops: the
cursor cannot move past it. -/
theorem next_of_max (hle : 2147483647 ≤ h) :
  next l ⟨2147483647, h⟩ = .error .addOverflow
  := by
  have hbound : Nat.pow 2 (32 - 1) = 2147483648 := rfl
  rw [next, dif_pos hle]
  split
  · rename_i p hp
    simp only [Panic.addSigned, hbound] at hp
    rw [if_pos (by omega)] at hp
    cases hp
    rfl
  · rename_i c' hc'
    simp only [Panic.addSigned, hbound] at hc'
    rw [if_pos (by omega)] at hc'
    cases hc'

end Call

/-! ### Runs of calls -/

/-- Successive calls of the walk `w` yield the slots `found`, one a call, looking up the slots
`asked` in all, and then report the end from a walk that reports it forever after, looking up
nothing more. -/
inductive Yields : EntityWalk → List (Int × ε) → List Int → Prop
  | finish {w w' : EntityWalk} {asked : List Int} (hend : next l w = .ok ⟨none, asked, w'⟩)
      (hstay : next l w' = .ok ⟨none, [], w'⟩) : Yields w [] asked
  | cons {w w' : EntityWalk} {x : Int × ε} {found : List (Int × ε)} {asked more : List Int}
      (hnext : next l w = .ok ⟨some x, asked, w'⟩) (htail : Yields w' found more) :
      Yields w (x :: found) (asked ++ more)

/-- Successive calls of the walk `w` yield the slots `found`, one a call, and then one stops the
run with `p`. -/
inductive Stops : EntityWalk → List (Int × ε) → Panic → Prop
  | stop {w : EntityWalk} {p : Panic} (h : next l w = .error p) : Stops w [] p
  | cons {w w' : EntityWalk} {x : Int × ε} {found : List (Int × ε)} {asked : List Int}
      {p : Panic} (hnext : next l w = .ok ⟨some x, asked, w'⟩) (htail : Stops w' found p) :
      Stops w (x :: found) p

variable {l}

/-- A walk that calls on to `w'` after looking up one more slot yields what `w'` yields. -/
theorem Yields.look {w w' : EntityWalk} {c : Int}
    (hnext : next l w = (next l w').map fun s => { s with asked := c :: s.asked })
    {found : List (Int × ε)} {asked : List Int} (h : Yields l w' found asked) :
  Yields l w found (c :: asked)
  := by
  cases h with
  | finish hend hstay =>
    rw [hend] at hnext
    exact .finish hnext hstay
  | cons hfirst htail =>
    rw [hfirst] at hnext
    exact .cons hnext htail

theorem Stops.look {w w' : EntityWalk} {c : Int}
    (hnext : next l w = (next l w').map fun s => { s with asked := c :: s.asked })
    {found : List (Int × ε)} {p : Panic} (h : Stops l w' found p) : Stops l w found p
  := by
  cases h with
  | stop hstop =>
    rw [hstop] at hnext
    exact .stop hnext
  | cons hfirst htail =>
    rw [hfirst] at hnext
    exact .cons hnext htail

theorem Stops.next_eq_error {w : EntityWalk} {p : Panic} (h : Stops l w [] p) :
  next l w = .error p
  := by
  cases h with
  | stop h => exact h

variable (l)

/-- Below the largest 32-bit value, a walk from `c` on yields the occupied slots from `c` to the
highest index, looking up each of those slots once, in order, and then reports the end. The
induction runs on the number of slots left up to the highest index. -/
theorem yields_occupied {c h : Int} (h0 : 0 ≤ c) (hM : h < 2147483647) :
  Yields l ⟨c, h⟩ (l.occupied c h) (EntityList.slots c h)
  := by
  obtain ⟨n, hn⟩ : ∃ n, (h + 1 - c).toNat = n := ⟨_, rfl⟩
  induction n generalizing c with
  | zero =>
    have hlt : h < c := by omega
    rw [l.occupied_of_lt hlt, EntityList.slots_of_lt hlt]
    exact .finish (next_of_highest_lt l hlt) (next_of_highest_lt l hlt)
  | succ n ih =>
    have hle : c ≤ h := by omega
    have hrest := ih (c := c + 1) (by omega) (by omega)
    rw [EntityList.slots_cons hle]
    cases he : l.get c with
    | some e =>
      rw [l.occupied_cons_of_get hle he]
      exact .cons (next_of_occupied l h0 hle (by omega) he) hrest
    | none =>
      rw [l.occupied_of_get_eq_none hle he]
      exact hrest.look (next_of_empty l h0 hle (by omega) he)

/-- From the largest 32-bit value on, a walk from `c` yields the occupied slots from `c` below
that value, and then stops the run; by induction on the slots left below that value. -/
theorem stops_at_max {c h : Int} (h0 : 0 ≤ c) (hc : c ≤ 2147483647) (hM : 2147483647 ≤ h) :
  Stops l ⟨c, h⟩ (l.occupied c (2147483647 - 1)) .addOverflow
  := by
  obtain ⟨n, hn⟩ : ∃ n, (2147483647 - c).toNat = n := ⟨_, rfl⟩
  induction n generalizing c with
  | zero =>
    obtain rfl : c = 2147483647 := by omega
    rw [l.occupied_of_lt (by omega)]
    exact .stop (next_of_max l hM)
  | succ n ih =>
    have hle : c ≤ 2147483647 - 1 := by omega
    have hrest := ih (c := c + 1) (by omega) (by omega) (by omega)
    cases he : l.get c with
    | some e =>
      rw [l.occupied_cons_of_get hle he]
      exact .cons (next_of_occupied l h0 (by omega) (by omega) he) hrest
    | none =>
      rw [l.occupied_of_get_eq_none hle he]
      exact hrest.look (next_of_empty l h0 (by omega) (by omega) he)

/-- Below the largest 32-bit value, the walk over a list yields its entries, looking up every
slot from `0` to the highest index once. -/
theorem yields_entries (hM : l.highestIndex < 2147483647) :
  Yields l (start l) l.entries (EntityList.slots 0 l.highestIndex)
  := by
  rw [l.entries_eq_occupied]
  exact yields_occupied l le_rfl hM

/-- From the largest 32-bit value on, the walk over a list yields its entries below that value
and then stops. -/
theorem stops_entries (hM : 2147483647 ≤ l.highestIndex) :
  Stops l (start l) (l.entries.filter (·.1 < 2147483647)) .addOverflow
  := by
  rw [l.entries_filter_lt (by norm_num) hM]
  exact stops_at_max l le_rfl (by norm_num) hM

/-- The walk over an entity list enumerates its occupied slots unless its highest index is the
largest 32-bit value.  Below that value, successive calls yield exactly the occupied slots from
`0` to the highest index with their entities, in increasing order, one a call, look up every
slot from `0` to the highest index once, in order, and then report the end forever after; none
of them stops the run.  From that value on, the calls yield the occupied slots below it and then
one stops the run: moving the cursor past the largest 32-bit value overflows. -/
theorem walk_yields_occupied_slots_below_i32_max (l : EntityList ε) :
  (l.highestIndex < 2147483647 →
    Yields l (start l) l.entries (EntityList.slots 0 l.highestIndex)) ∧
  (2147483647 ≤ l.highestIndex →
    Stops l (start l) (l.entries.filter (·.1 < 2147483647)) .addOverflow)
  :=
  ⟨yields_entries l, stops_entries l⟩

/-- The stand-in list with no slots that reports the largest 32-bit value as its highest index:
the first call of its walk finds every slot below that value empty and then stops the run. -/
theorem walk_stops_past_i32_max :
  let l := Api.standInList [] 2147483647 []
  l.highestIndex = 2147483647 ∧ next l (start l) = .error .addOverflow
  := by
  intro l
  have hempty : l.occupied 0 (2147483647 - 1) = [] := by
    rw [EntityList.occupied, List.filterMap_eq_nil_iff]
    intro i _
    simp [l, Api.standInList, EntityList.get]
  have hstops := stops_at_max l (c := 0) le_rfl (by norm_num) (le_refl 2147483647)
  rw [hempty] at hstops
  exact ⟨rfl, hstops.next_eq_error⟩

/-- What the walk's calls give is what `EntityList.walked` answers: the entries, or the stop. -/
theorem walked_agrees (l : EntityList ε) :
  (∀ found, l.walked = .ok found → ∃ asked, Yields l (start l) found asked) ∧
  (∀ p, l.walked = .error p → ∃ found, Stops l (start l) found p)
  := by
  unfold EntityList.walked
  split_ifs with hM
  · refine ⟨fun found h => (nomatch h), fun p h => ?_⟩
    cases h
    exact ⟨_, stops_entries l hM⟩
  · refine ⟨fun found h => ?_, fun p h => (nomatch h)⟩
    cases h
    exact ⟨_, yields_entries l (by omega)⟩

end EntityWalk

end EngineSdk
