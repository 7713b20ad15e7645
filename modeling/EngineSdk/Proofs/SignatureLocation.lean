import Mathlib
import EngineSdk.Gamedata.Locate

/-!
# Locating a signature

`Gamedata.locate` composes four steps: the entry's linux pattern, reading it, the first match
of the pattern in the searched bytes, and, when the entry has a read offset `r`, the target of
the 32-bit displacement stored `r` bytes into the match.

* The scan answers the first offset at which the pattern matches (`scan_eq_some_iff`): the
  pattern lies inside the searched bytes there and each of its bytes, wildcards apart, equals
  the byte under it (`MatchesAt`).  An empty pattern matches nowhere.
* A read offset is followed only when the displacement lies inside the pattern (`r + 4 ≤` its
  length), so the four bytes read lie inside the match and hence inside the searched bytes.
* Every outcome is one of the steps' own: the lookup's error, the reading's error, a failed
  scan, a read offset outside the pattern, or an address (`locate_outcomes`).  The guard's sum
  `r + 4` is taken in the machine word, so a read offset within 3 of its top does not give
  `invalidSignature`: it stops the call, as soon as the lookup, the reading and the scan
  succeed.
-/

namespace EngineSdk

namespace Pattern

/-- The pattern matches `window` at offset `m`: it lies inside the window there, and each of
its bytes equals the byte of the window under it, wildcards matching anything. -/
def MatchesAt (p : Pattern) (window : List UInt8) (m : Nat) : Prop :=
  m + p.length ≤ window.length ∧
    ∀ (i : Nat) (b : UInt8), p[i]? = some (some b) → window[m + i]? = some b

/-- `m` is the first offset at which the non-empty pattern matches `window`. -/
def FirstMatch (p : Pattern) (window : List UInt8) (m : Nat) : Prop :=
  p ≠ [] ∧ p.MatchesAt window m ∧ ∀ k < m, ¬ p.MatchesAt window k

/-- The pattern matches the start of `bytes`: they are at least as long, and each byte of the
pattern, wildcards apart, equals the byte at its position. -/
theorem matchesPrefix_iff (p : Pattern) (bytes : List UInt8) :
  matchesPrefix p bytes = true ↔
    p.length ≤ bytes.length ∧
      ∀ (i : Nat) (b : UInt8), p[i]? = some (some b) → bytes[i]? = some b
  := by
  induction p generalizing bytes with
  | nil => simp [matchesPrefix]
  | cons x p ih =>
    cases bytes with
    | nil => simp [matchesPrefix]
    | cons c bytes =>
      have hrest :
          (∀ (i : Nat) (b : UInt8), (x :: p)[i]? = some (some b) → (c :: bytes)[i]? = some b) ↔
          (∀ b, x = some b → c = b) ∧
            ∀ (i : Nat) (b : UInt8), p[i]? = some (some b) → bytes[i]? = some b := by
        constructor
        · intro h
          exact ⟨fun b hb => by simpa using h 0 b (by simp [hb]),
            fun i b hi => by simpa using h (i + 1) b (by simpa using hi)⟩
        · rintro ⟨hhead, htail⟩ i b hi
          cases i with
          | zero =>
            simp only [List.getElem?_cons_zero, Option.some.injEq] at hi ⊢
            exact hhead b hi
          | succ i => simpa using htail i b (by simpa using hi)
      rw [hrest]
      cases x with
      | none => simp [matchesPrefix, ih]
      | some b =>
        simp only [matchesPrefix, Bool.and_eq_true, beq_iff_eq, ih, List.length_cons,
          Nat.add_le_add_iff_right, Option.some.injEq, forall_eq']
        constructor
        · rintro ⟨rfl, h⟩
          exact ⟨h.1, rfl, h.2⟩
        · rintro ⟨hlen, rfl, h⟩
          exact ⟨rfl, hlen, h⟩

/-- A non-empty pattern matches the bytes from `k` on exactly when it matches at `k`. -/
theorem matchesPrefix_drop_iff {p : Pattern} (hp : p ≠ []) (window : List UInt8) (k : Nat) :
  matchesPrefix p (window.drop k) = true ↔ p.MatchesAt window k
  := by
  have hlen : 0 < p.length := List.length_pos_iff.2 hp
  rw [matchesPrefix_iff, MatchesAt, List.length_drop]
  simp only [List.getElem?_drop]
  constructor
  · rintro ⟨hfit, h⟩
    exact ⟨by omega, h⟩
  · rintro ⟨hfit, h⟩
    exact ⟨by omega, h⟩

/-- Scanning `limit` offsets from `base` answers the first of them at which the pattern matches
the bytes from there on. -/
theorem scanFrom_eq_find? (p : Pattern) (base limit : Nat) (bytes : List UInt8) :
  scanFrom p base limit bytes =
    ((List.range limit).find? fun k => matchesPrefix p (bytes.drop k)).map (base + ·)
  := by
  induction limit generalizing base bytes with
  | zero => rfl
  | succ limit ih =>
    rw [scanFrom, List.range_succ_eq_map, List.find?_cons, List.drop_zero]
    cases matchesPrefix p bytes with
    | true => simp
    | false =>
      have hnext : (fun k => matchesPrefix p (bytes.drop k)) ∘ Nat.succ =
          fun k => matchesPrefix p (bytes.tail.drop k) := by
        funext k
        simp [List.drop_tail]
      simp only [Bool.false_eq_true, if_false, ih, List.find?_map, hnext, Option.map_map]
      congr 1
      funext k
      show base + 1 + k = base + (k + 1)
      omega

/-- The scan answers the first offset at which the pattern matches the searched bytes, and
nothing for an empty pattern or one that matches nowhere. -/
theorem scan_eq_some_iff (p : Pattern) (memory : List UInt8) (size m : Nat) :
  p.scan memory size = some m ↔ p.FirstMatch (memory.take size) m
  := by
  have hwindow : (memory.take size).length ≤ size := List.length_take_le _ _
  by_cases hp : p = []
  · simp [scan, hp, FirstMatch]
  by_cases hsize : size < p.length
  · simp only [scan, hsize, or_true, if_true, reduceCtorEq, false_iff]
    rintro ⟨-, ⟨hfit, -⟩, -⟩
    omega
  have hempty : p.isEmpty = false := by simpa using hp
  simp only [scan, hempty, hsize, Bool.false_eq_true, or_self, if_false, scanFrom_eq_find?,
    Nat.zero_add, Option.map_id', List.find?_range_eq_some, matchesPrefix_drop_iff hp,
    List.mem_range, Bool.not_eq_true', FirstMatch, ne_eq, hp, not_false_eq_true, true_and]
  constructor
  · rintro ⟨hm, -, hfirst⟩
    refine ⟨hm, fun k hk hmatch => ?_⟩
    have hno := hfirst k hk
    rw [(matchesPrefix_drop_iff hp _ k).2 hmatch] at hno
    exact Bool.noConfusion hno
  · rintro ⟨hm, hfirst⟩
    refine ⟨hm, by have := hm.1; omega, fun k hk => ?_⟩
    rw [Bool.eq_false_iff]
    exact mt (matchesPrefix_drop_iff hp _ k).1 (hfirst k hk)

/-- The pattern matches the region of the first `size` bytes of `memory` at offset `o`: it lies
inside the region there, and each of its bytes, wildcards apart, equals the byte under it. -/
def MatchesIn (p : Pattern) (memory : List UInt8) (size o : Nat) : Prop :=
  o + p.length ≤ size ∧ ∀ (i : Nat) (b : UInt8), p[i]? = some (some b) → memory[o + i]? = some b

/-- Within a region the memory holds, matching the searched bytes is matching the memory. -/
theorem matchesAt_take_iff {p : Pattern} {memory : List UInt8} {size : Nat}
    (hsize : size ≤ memory.length) (o : Nat) :
  p.MatchesAt (memory.take size) o ↔ p.MatchesIn memory size o
  := by
  have hlen : (memory.take size).length = size := List.length_take_of_le hsize
  have hsame : o + p.length ≤ size → ∀ (i : Nat) (b : UInt8), p[i]? = some (some b) →
      (memory.take size)[o + i]? = memory[o + i]? := by
    intro hfit i b hi
    have hi' : i < p.length := (List.getElem?_eq_some_iff.1 hi).1
    rw [List.getElem?_take, if_pos (by omega)]
  constructor
  · rintro ⟨hfit, h⟩
    rw [hlen] at hfit
    refine ⟨hfit, fun i b hi => ?_⟩
    rw [← hsame hfit i b hi]
    exact h i b hi
  · rintro ⟨hfit, h⟩
    refine ⟨by rw [hlen]; exact hfit, fun i b hi => ?_⟩
    rw [hsame hfit i b hi]
    exact h i b hi

/-- The scan reads nothing past the region: memories that agree on its bytes scan alike. -/
theorem scan_congr_region (p : Pattern) {memory memory' : List UInt8} {size : Nat}
    (h : ∀ i < size, memory'[i]? = memory[i]?) : p.scan memory' size = p.scan memory size
  := by
  have htake : memory'.take size = memory.take size := by
    apply List.ext_getElem?
    intro i
    rw [List.getElem?_take, List.getElem?_take]
    split_ifs with hi
    · exact h i hi
    · rfl
  unfold scan
  rw [htake]

/-- Scanning a region of `size` bytes that the memory holds answers the least offset at which
the pattern lies inside the region and matches it, wildcards matching any byte; it answers
nothing exactly when the pattern is empty, longer than the region, or matches at no offset; and
it reads no byte past the region. -/
theorem scan_eq_least_match (p : Pattern) (memory : List UInt8) (size : Nat)
    (hsize : size ≤ memory.length) :
  (∀ o, p.scan memory size = some o ↔
    p ≠ [] ∧ p.MatchesIn memory size o ∧ ∀ k < o, ¬ p.MatchesIn memory size k) ∧
  (p.scan memory size = none ↔
    p = [] ∨ size < p.length ∨ ∀ o, ¬ p.MatchesIn memory size o) ∧
  ∀ memory' : List UInt8, (∀ i < size, memory'[i]? = memory[i]?) →
    p.scan memory' size = p.scan memory size
  := by
  have hfirst : ∀ o, p.scan memory size = some o ↔
      p ≠ [] ∧ p.MatchesIn memory size o ∧ ∀ k < o, ¬ p.MatchesIn memory size k := by
    intro o
    simp only [scan_eq_some_iff, FirstMatch, matchesAt_take_iff hsize]
  refine ⟨hfirst, ⟨fun hnone => ?_, fun hno => ?_⟩, fun memory' h => scan_congr_region p h⟩
  · by_cases hp : p = []
    · exact .inl hp
    refine .inr (.inr fun o ho => ?_)
    classical
    have hex : ∃ o, p.MatchesIn memory size o := ⟨o, ho⟩
    have hleast := (hfirst (Nat.find hex)).2
      ⟨hp, Nat.find_spec hex, fun k hk => Nat.find_min hex hk⟩
    rw [hnone] at hleast
    cases hleast
  · rcases hno with hp | hlong | hnowhere
    · simp [scan, hp]
    · simp [scan, hlong]
    · cases hs : p.scan memory size with
      | none => rfl
      | some o => exact absurd ((hfirst o).1 hs).2.1 (hnowhere o)

/-- The pattern `55 ? 89 E5` is found one byte into a six-byte region, its wildcard over `FF`. -/
theorem scan_wildcard_region :
  let memory : List UInt8 := [0x00, 0x55, 0xFF, 0x89, 0xE5, 0x00]
  let p : Pattern := [some 0x55, none, some 0x89, some 0xE5]
  6 ≤ memory.length ∧
  ((∀ o, p.scan memory 6 = some o ↔
    p ≠ [] ∧ p.MatchesIn memory 6 o ∧ ∀ k < o, ¬ p.MatchesIn memory 6 k) ∧
  (p.scan memory 6 = none ↔ p = [] ∨ 6 < p.length ∨ ∀ o, ¬ p.MatchesIn memory 6 o) ∧
  ∀ memory' : List UInt8, (∀ i < 6, memory'[i]? = memory[i]?) →
    p.scan memory' 6 = p.scan memory 6)
  :=
  ⟨by decide, scan_eq_least_match _ _ 6 (by decide)⟩

end Pattern

namespace Gamedata

variable (g : Gamedata) (name : String) (memory : List UInt8) (size : Nat)

/-- A signature has no pattern when its name has no entry, or its entry no linux pattern. -/
theorem signature_eq_error_iff (e : GamedataError) :
  g.signature name = .error e ↔
    g.signatures.lookup name = none ∧ e = .signatureNotFound name false ∨
    ∃ entry, g.signatures.lookup name = some entry ∧ entry.linux = none ∧
      e = .signatureNotFound name true
  := by
  unfold signature
  rcases g.signatures.lookup name with _ | entry
  · simp [eq_comm]
  · rcases hlinux : entry.linux with _ | text <;> simp [hlinux, eq_comm]

variable {g name memory size}

theorem locate_of_signature_error {e : GamedataError} (hs : g.signature name = .error e) :
  g.locate name memory size = .error (.error e)
  := by
  simp [locate, hs, Except.mapError, bind, Except.bind]

theorem locate_of_parse_error {text : String} {e : GamedataError}
    (hs : g.signature name = .ok text) (hp : Pattern.parse text = .error e) :
  g.locate name memory size = .error (.error e)
  := by
  simp [locate, hs, hp, Except.mapError, bind, Except.bind]

theorem locate_of_no_match {text : String} {p : Pattern} (hs : g.signature name = .ok text)
    (hp : Pattern.parse text = .ok p) (hm : p.scan memory size = none) :
  g.locate name memory size = .error (.error (.scanFailed name))
  := by
  simp [locate, hs, hp, hm, Except.mapError, bind, Except.bind, throw, throwThe,
    MonadExceptOf.throw]

/-- After the first match the read offset decides: none gives the match; one whose guard sum
leaves the machine word stops the call; one inside the pattern moves to the displacement's
target; any other is refused. -/
theorem locate_of_match {text : String} {p : Pattern} {m : Nat}
    (hs : g.signature name = .ok text) (hp : Pattern.parse text = .ok p)
    (hm : p.scan memory size = some m) :
    g.locate name memory size =
      match g.readOffset? name with
      | none => .ok m
      | some r =>
        if wordMax < r + 4 then .error (.panic .addOverflow)
        else if r + 4 ≤ p.length then .ok (relativeTarget memory (m + r))
        else .error (.error (.invalidSignature
          (name ++ ": read_offset " ++ toString r ++ " outside pattern"))) := by
  simp only [locate, hs, hp, hm, Except.mapError, bind, Except.bind, pure, Except.pure]
  rcases g.readOffset? name with _ | r
  · rfl
  · simp only [gt_iff_lt, throw, throwThe, MonadExceptOf.throw]

/-- The match lies inside the searched bytes, and so does every stretch of the pattern. -/
theorem end_le_of_scan {p : Pattern} {m : Nat} (hm : p.scan memory size = some m) :
  m + p.length ≤ size ∧ m + p.length ≤ memory.length
  := by
  obtain ⟨-, ⟨hfit, -⟩, -⟩ := (Pattern.scan_eq_some_iff p memory size m).1 hm
  simp only [List.length_take] at hfit
  omega

variable (g name memory size)

/-- Locating a signature composes its steps, and each outcome comes from one of them: the
lookup's `signatureNotFound` (no entry, or no linux pattern), the reading's error, `scanFailed`
when the pattern matches nowhere, `invalidSignature` for a read offset `r` with `r + 4` past the
pattern, or an address: the first match, or with a read offset the target of the signed
little-endian displacement at `r` in the match, four bytes that lie inside the match and the
searched bytes.  The guard's sum `r + 4` is taken in the machine word: a read offset within 3
of its top stops the call once the lookup, the reading and the scan succeed. -/
theorem locate_outcomes :
  (∀ e, g.signature name = .error e ↔
    g.signatures.lookup name = none ∧ e = .signatureNotFound name false ∨
    ∃ entry, g.signatures.lookup name = some entry ∧ entry.linux = none ∧
      e = .signatureNotFound name true) ∧
  (∀ (p : Pattern) m, p.scan memory size = some m ↔ p.FirstMatch (memory.take size) m) ∧
  (∀ e, g.locate name memory size = .error (.error e) ↔
    g.signature name = .error e ∨
    ∃ text, g.signature name = .ok text ∧
      (Pattern.parse text = .error e ∨
        ∃ p, Pattern.parse text = .ok p ∧
          (p.scan memory size = none ∧ e = .scanFailed name ∨
            ∃ m r, p.scan memory size = some m ∧ g.readOffset? name = some r ∧
              p.length < r + 4 ∧ r + 4 ≤ wordMax ∧
              e = .invalidSignature
                (name ++ ": read_offset " ++ toString r ++ " outside pattern")))) ∧
  (∀ v, g.locate name memory size = .ok v ↔
    ∃ text p m, g.signature name = .ok text ∧ Pattern.parse text = .ok p ∧
      p.scan memory size = some m ∧
      (g.readOffset? name = none ∧ v = m ∨
        ∃ r, g.readOffset? name = some r ∧ r + 4 ≤ p.length ∧ r + 4 ≤ wordMax ∧
          m + r + 4 ≤ size ∧ m + r + 4 ≤ memory.length ∧
          v = m + r + 4 +
            LittleEndian.toSigned 32 (LittleEndian.toNat ((memory.drop (m + r)).take 4)))) ∧
  (∀ q, g.locate name memory size = .error (.panic q) ↔
    q = .addOverflow ∧ ∃ text p m r, g.signature name = .ok text ∧
      Pattern.parse text = .ok p ∧ p.scan memory size = some m ∧
      g.readOffset? name = some r ∧ wordMax < r + 4)
  := by
  refine ⟨signature_eq_error_iff g name, fun p m => Pattern.scan_eq_some_iff p memory size m, ?_⟩
  rcases hs : g.signature name with e₀ | text
  · have hloc := @locate_of_signature_error g name memory size e₀ hs
    simp [hloc]
  rcases hp : Pattern.parse text with e₀ | p
  · have hloc := @locate_of_parse_error g name memory size text e₀ hs hp
    simp [hloc, hp]
  rcases hm : p.scan memory size with _ | m
  · have hloc := locate_of_no_match hs hp hm
    simp [hloc, hp, hm, eq_comm]
  have hloc := locate_of_match hs hp hm
  have hend := end_le_of_scan hm
  rcases hr : g.readOffset? name with _ | r
  · simp [hloc, hp, hm, hr, eq_comm]
  simp only [hr] at hloc
  by_cases hover : wordMax < r + 4
  · simp [hloc, hp, hm, hover, eq_comm]
  by_cases hin : r + 4 ≤ p.length
  · simp [hloc, hp, hm, hover, hin, relativeTarget]
    omega
  · have hpast : p.length < r + 4 := by omega
    have hfits : r + 4 ≤ wordMax := by omega
    simp [hloc, hp, hm, hover, hin, hpast, hfits, eq_comm]

end Gamedata

end EngineSdk
