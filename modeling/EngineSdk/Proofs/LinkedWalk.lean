import Mathlib
import EngineSdk.Proofs.BlockViews

/-!
# Walking a linked list in slots

A `LinkedSlots` list keeps its nodes in a block and links them by 16-bit indices: `noNode` names
no node, and neither does an index past the block.  Its elements are read by a walk from the
head along the next links that takes at most as many steps as the list's count, itself kept in
16 bits, and stops early at an index that names no node.

* A walk of at most `n` steps from `i` yields the elements at the indices `next^[j] i` for
  `j < k`, where `k` is `n` or the first `j` at which the links leave the nodes
  (`Visits`, `walk_map_some`); such a `k` always exists (`exists_visits`), so the walk never
  takes more than `n` steps, whatever cycles the links make.
* Over external storage of `c` slots, no more than the storage holds, an index names a node
  exactly when it is not `noNode` and lies below the count the block records, `i32Count c`, and
  then the node is the slot itself (`node?_external`); an index that names none has no element
  and `noNode` on either side.  Below `2 ^ 31` slots the recorded count is `c`; over `2 ^ 31`
  slots it is zero and the list has no node at all.
* `external_walk_follows_links` puts these together for a list over external storage, with the
  case of links that run through exactly the count's nodes to the tail.
-/

namespace EngineSdk.LinkedSlots

variable {α : Type}

/-! ### Nodes and their links -/

section Nodes

variable (l : LinkedSlots α) {i : UInt16}

theorem element?_eq_none_iff : l.element? i = none ↔ l.node? i = none := by
  simp [element?]

theorem element?_of_node? {n : LinkNode α} (h : l.node? i = some n) :
  l.element? i = some n.element
  := by
  simp [element?, h]

theorem next_of_node? {n : LinkNode α} (h : l.node? i = some n) : l.next i = n.next := by
  simp [next, h]

theorem next_of_node?_eq_none (h : l.node? i = none) : l.next i = noNode := by
  simp [next, h]

theorem previous_of_node?_eq_none (h : l.node? i = none) : l.previous i = noNode := by
  simp [previous, h]

end Nodes

/-! ### The walk -/

section Walk

variable (l : LinkedSlots α)

/-- A walk of at most `n` steps from `i` visits `k` nodes: the first `k` indices along the next
links name nodes, and `k` is `n` or the `k`-th index names none. -/
def Visits (n : Nat) (i : UInt16) (k : Nat) : Prop :=
  k ≤ n ∧ (∀ j < k, (l.node? (l.next^[j] i)).isSome) ∧ (k = n ∨ l.node? (l.next^[k] i) = none)

variable {l}

theorem walk_succ_of_node? {n : Nat} {i : UInt16} {nd : LinkNode α} (h : l.node? i = some nd) :
  l.walk (n + 1) i = nd.element :: l.walk n nd.next
  := by
  simp [walk, h]

theorem walk_succ_of_node?_eq_none {n : Nat} {i : UInt16} (h : l.node? i = none) :
  l.walk (n + 1) i = []
  := by
  simp [walk, h]

/-- A walk that visits the node at `i` goes on from the next index, with one step and one visit
fewer. -/
theorem Visits.of_succ {n k : Nat} {i : UInt16} (h : l.Visits (n + 1) i (k + 1)) :
  l.Visits n (l.next i) k
  := by
  obtain ⟨hle, hsome, hend⟩ := h
  refine ⟨by omega, fun j hj => ?_, ?_⟩
  · have hj' := hsome (j + 1) (by omega)
    rwa [Function.iterate_succ_apply] at hj'
  · rcases hend with hk | hnone
    · exact Or.inl (by omega)
    · rw [Function.iterate_succ_apply] at hnone
      exact Or.inr hnone

/-- A walk from a node whose walk from the next index visits `k` nodes visits `k + 1`, with one
step more. -/
theorem Visits.succ {n k : Nat} {i : UInt16} {nd : LinkNode α} (hi : l.node? i = some nd)
    (h : l.Visits n (l.next i) k) : l.Visits (n + 1) i (k + 1)
  := by
  obtain ⟨hle, hsome, hend⟩ := h
  refine ⟨by omega, fun j hj => ?_, ?_⟩
  · cases j with
    | zero => simp [hi]
    | succ j =>
      rw [Function.iterate_succ_apply]
      exact hsome j (by omega)
  · rcases hend with rfl | hnone
    · exact Or.inl rfl
    · rw [Function.iterate_succ_apply]
      exact Or.inr hnone

/-- Every walk visits some number of nodes. -/
theorem exists_visits (n : Nat) (i : UInt16) : ∃ k, l.Visits n i k := by
  induction n generalizing i with
  | zero => exact ⟨0, le_rfl, fun j hj => absurd hj (Nat.not_lt_zero j), Or.inl rfl⟩
  | succ n ih =>
    cases hi : l.node? i with
    | none => exact ⟨0, Nat.zero_le _, fun j hj => absurd hj (Nat.not_lt_zero j), Or.inr hi⟩
    | some nd =>
      obtain ⟨k, hk⟩ := ih (l.next i)
      exact ⟨k + 1, hk.succ hi⟩

/-- A walk yields the elements of the nodes it visits, in link order. -/
theorem walk_map_some {n k : Nat} {i : UInt16} (h : l.Visits n i k) :
  (l.walk n i).map some = (List.range k).map fun j => l.element? (l.next^[j] i)
  := by
  induction n generalizing i k with
  | zero =>
    obtain rfl : k = 0 := Nat.le_zero.mp h.1
    rfl
  | succ n ih =>
    cases k with
    | zero =>
      have hnone : l.node? i = none := h.2.2.resolve_left (by omega)
      rw [walk_succ_of_node?_eq_none hnone]
      rfl
    | succ k =>
      obtain ⟨nd, hnd⟩ := Option.isSome_iff_exists.mp (h.2.1 0 (Nat.succ_pos k))
      rw [Function.iterate_zero_apply] at hnd
      have hrest := ih h.of_succ
      rw [l.next_of_node? hnd] at hrest
      rw [walk_succ_of_node? hnd, List.map_cons, hrest, List.range_succ_eq_map, List.map_cons,
        List.map_map, Function.iterate_zero_apply, l.element?_of_node? hnd]
      refine congrArg _ (List.map_congr_left fun j _ => ?_)
      rw [Function.comp_apply, Function.iterate_succ_apply, l.next_of_node? hnd]

theorem length_walk_le (n : Nat) (i : UInt16) : (l.walk n i).length ≤ n := by
  induction n generalizing i with
  | zero => simp [walk]
  | succ n ih =>
    cases hi : l.node? i with
    | none => simp [walk_succ_of_node?_eq_none hi]
    | some nd =>
      rw [walk_succ_of_node? hi, List.length_cons]
      exact Nat.succ_le_succ (ih nd.next)

/-- When the links from the head name a node at each of the count's steps, the list yields
exactly as many elements, the last being that of the node its last step reaches. -/
theorem toList_of_links (hpos : 0 < l.length)
    (hlinks : ∀ j < l.length, (l.node? (l.next^[j] l.head)).isSome) :
  l.toList.length = l.length ∧
    l.toList.getLast? = l.element? (l.next^[l.length - 1] l.head)
  := by
  have hmap : l.toList.map some = (List.range l.length).map fun j => l.element? (l.next^[j] l.head) :=
    walk_map_some ⟨le_rfl, hlinks, Or.inl rfl⟩
  have hlen : l.toList.length = l.length := by
    simpa using congrArg List.length hmap
  refine ⟨hlen, ?_⟩
  obtain ⟨n, hn⟩ : ∃ n, l.length = n + 1 := ⟨l.length - 1, by omega⟩
  rw [hn, List.range_succ, List.map_append, List.map_singleton] at hmap
  have hlast := congrArg List.getLast? hmap
  rw [List.getLast?_map, List.getLast?_append_of_ne_nil _ (List.cons_ne_nil _ _),
    List.getLast?_singleton] at hlast
  rw [hn, Nat.add_sub_cancel]
  cases hl : l.toList.getLast? with
  | none =>
    rw [hl] at hlast
    cases hlast
  | some e =>
    rw [hl] at hlast
    exact Option.some_inj.mp hlast

end Walk

/-! ### Lists over external storage -/

section External

variable {storage : List (LinkNode α)} {c : Nat} (head tail : UInt16) (count : Nat)

/-- Over external storage of `c` slots, an index names the slot itself when it is neither
`noNode` nor past the count the block records, and no node otherwise. -/
theorem node?_external (i : UInt16) :
  (external storage c head tail count).node? i =
    if i = noNode ∨ i32Count c ≤ i.toNat then none else storage[i.toNat]?
  := by
  by_cases hi : i = noNode
  · simp [node?, hi]
  · by_cases hic : i32Count c ≤ i.toNat
    · simp [node?, external, Block.get?, Block.isIndexValid, hi, hic]
    · simp [node?, external, Block.get?, Block.isIndexValid, hi, hic, Nat.lt_of_not_le hic]

theorem node?_external_eq_none_iff (hc : c ≤ storage.length) (i : UInt16) :
  (external storage c head tail count).node? i = none ↔ i = noNode ∨ i32Count c ≤ i.toNat
  := by
  have hcount := i32Count_le c
  rw [node?_external]
  split_ifs with h
  · simp [h]
  · simp only [h, iff_false, List.getElem?_eq_none_iff, not_le]
    omega

theorem length_external : (external storage c head tail count).length = count % 65536 := by
  simp [length, external]

end External

/-- How a list `l` that views `c` slots of `storage` reads its nodes and walks its links, with
`x j = next^[j] head` the index `j` steps along the links from the head. -/
structure ReadsSlots (storage : List (LinkNode α)) (c : Nat) (l : LinkedSlots α) : Prop where
  /-- An index names no node exactly when it is `noNode` or not below `c`. -/
  node?_eq_none_iff : ∀ i, l.node? i = none ↔ i = noNode ∨ c ≤ i.toNat
  element?_eq_none_iff : ∀ i, l.element? i = none ↔ i = noNode ∨ c ≤ i.toNat
  /-- Such an index has `noNode` on either side. -/
  next_previous_of_missing : ∀ i, i = noNode ∨ c ≤ i.toNat → l.next i = noNode ∧ l.previous i = noNode
  /-- Any other index names its slot. -/
  node?_of_lt : ∀ i, i ≠ noNode → i.toNat < c → l.node? i = storage[i.toNat]?
  /-- The walk yields the elements at `x 0`, ..., `x (k - 1)`, where `k` is the length or, when
  earlier, the first `j` at which `x j` is `noNode` or not below `c`. -/
  toList_follows_links : ∀ k, k ≤ l.length →
    (∀ j < k, l.next^[j] l.head ≠ noNode ∧ (l.next^[j] l.head).toNat < c) →
    (k = l.length ∨ l.next^[k] l.head = noNode ∨ c ≤ (l.next^[k] l.head).toNat) →
    l.toList.map some = (List.range k).map fun j => l.element? (l.next^[j] l.head)
  /-- Such a `k` exists. -/
  exists_stop : ∃ k, k ≤ l.length ∧ (∀ j < k, l.next^[j] l.head ≠ noNode ∧ (l.next^[j] l.head).toNat < c) ∧
    (k = l.length ∨ l.next^[k] l.head = noNode ∨ c ≤ (l.next^[k] l.head).toNat)
  length_toList_le : l.toList.length ≤ l.length
  /-- When the links from the head stay on nodes for the whole length and reach the tail on its
  last step, the walk yields one element for each step, the tail's last. -/
  toList_of_path : 0 < l.length →
    (∀ j < l.length, l.next^[j] l.head ≠ noNode ∧ (l.next^[j] l.head).toNat < c) →
    l.next^[l.length - 1] l.head = l.tail →
    l.toList.length = l.length ∧ l.toList.getLast? = l.element? l.tail

/-- A list over `c` slots of external storage, no more than it holds, reads and walks the slots
below the count its block records. -/
theorem readsSlots_external {storage : List (LinkNode α)} {c : Nat} (hc : c ≤ storage.length)
    (head tail : UInt16) (count : Nat) :
  ReadsSlots storage (i32Count c) (external storage c head tail count)
  := by
  set l := external storage c head tail count
  have hnone := node?_external_eq_none_iff head tail count hc
  have hsome : ∀ i, (l.node? i).isSome ↔ i ≠ noNode ∧ i.toNat < i32Count c := by
    intro i
    rw [← Option.ne_none_iff_isSome, Ne, hnone, not_or, not_le]
  have hend : ∀ k, (k = l.length ∨ l.next^[k] l.head = noNode ∨
      i32Count c ≤ (l.next^[k] l.head).toNat) ↔
      (k = l.length ∨ l.node? (l.next^[k] l.head) = none) := by
    intro k
    rw [hnone]
  refine ⟨hnone, fun i => ?_, fun i hi => ?_, fun i hi hic => ?_, fun k hk hvalid hstop => ?_,
    ?_, length_walk_le _ _, fun hpos hvalid htail => ?_⟩
  · rw [element?_eq_none_iff, hnone]
  · rw [← hnone] at hi
    exact ⟨next_of_node?_eq_none l hi, previous_of_node?_eq_none l hi⟩
  · rw [node?_external, if_neg (not_or.mpr ⟨hi, by omega⟩)]
  · exact walk_map_some ⟨hk, fun j hj => (hsome _).mpr (hvalid j hj), (hend k).mp hstop⟩
  · obtain ⟨k, hk, hvalid, hstop⟩ := exists_visits (l := l) l.length l.head
    exact ⟨k, hk, fun j hj => (hsome _).mp (hvalid j hj), (hend k).mpr hstop⟩
  · rw [← htail]
    exact toList_of_links hpos fun j hj => (hsome _).mpr (hvalid j hj)

/-- The walk over a list of nodes in external storage follows the links.  A list that views `c`
slots of `storage`, no more than it holds, reads and walks the slots below the count its block
records, `i32Count c`, as `ReadsSlots` says; below `2 ^ 31` slots that count is `c`.  Its length
is the count it was given modulo `2 ^ 16`, so that the walk takes exactly the count's steps along
a path of fewer than `2 ^ 16` nodes to the tail.  The list with no storage yields nothing. -/
theorem external_walk_follows_links {storage : List (LinkNode α)} {c : Nat}
    (hc : c ≤ storage.length) (head tail : UInt16) (count : Nat) :
  ReadsSlots storage (i32Count c) (external storage c head tail count) ∧
    (c < 2 ^ 31 → ReadsSlots storage c (external storage c head tail count)) ∧
    (external storage c head tail count).length = count % 65536 ∧
    (empty : LinkedSlots α).toList = []
  := by
  have hreads := readsSlots_external hc head tail count
  refine ⟨hreads, fun h31 => ?_, length_external head tail count, rfl⟩
  rwa [i32Count_of_lt h31] at hreads

/-- Four slots linked `2 → 0 → 3`, with slot `1` free. -/
theorem walk_follows_three_links :
  let storage : List (LinkNode Nat) :=
    [⟨20, 2, 3⟩, ⟨99, noNode, noNode⟩, ⟨10, noNode, 0⟩, ⟨30, 0, noNode⟩]
  4 ≤ storage.length ∧ ReadsSlots storage (i32Count 4) (external storage 4 2 3 3) ∧
    (4 < 2 ^ 31 → ReadsSlots storage 4 (external storage 4 2 3 3)) ∧
    (external storage 4 2 3 3).length = 3 % 65536 ∧ (empty : LinkedSlots Nat).toList = []
  :=
  ⟨by decide, external_walk_follows_links (by decide) 2 3 3⟩

/-- A list over `2 ^ 31` slots records its block's count as `-2 ^ 31`: no index names a node, so
the walk from the head yields nothing and every link reads `noNode`. -/
theorem list_over_two_pow_31_slots_has_no_node :
  let l : LinkedSlots Nat :=
    external (List.replicate (2 ^ 31) ⟨0, noNode, noNode⟩) (2 ^ 31) 0 0 1
  l.node? 0 = none ∧ l.next 0 = noNode ∧ l.toList = []
  := by
  decide

-- Two slots linked to each other in a cycle: the walk stops after the count's two steps.
example : (external [⟨1, 1, 1⟩, ⟨2, 0, 0⟩] 2 0 1 2 : LinkedSlots Nat).toList = [1, 2] := by
  decide

end EngineSdk.LinkedSlots
