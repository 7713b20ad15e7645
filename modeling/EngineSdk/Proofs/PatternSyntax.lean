import Mathlib
import EngineSdk.Gamedata.Pattern

/-!
# The text of a pattern

A pattern is written as words between blanks.  The words of a text are its pieces between blank
characters with the empty pieces dropped (`words_eq_splitOnP`), so runs of blanks and blanks at
either end separate nothing more.  A word `?` or `??` is a wildcard; every other word must be a
hexadecimal numeral (`Hex.IsNumeral`: an optional `+`, then one or more digits of either case,
leading zeros allowed) whose value is a byte.

* Reading accepts exactly the texts with at least one word, each word a wildcard or the numeral
  of a byte, and reads the words in order (`parse_eq_ok_iff`).  Every other text is refused as
  an invalid signature, which names the first word that is neither or says that there is no
  word (`parse_eq_error_iff`).
* Printing each byte as two hexadecimal digits of either case and each wildcard as `?`, and
  joining the words with single spaces, gives a text that reads back as the pattern
  (`parse_intercalate_of_prints`); `Pattern.render` prints so (`parse_render`).
-/

namespace EngineSdk

/-! ### Traversals that can fail -/

section MapM

variable {ε α β : Type} {f : α → Except ε β}

/-- A traversal succeeds with `ys` exactly when each element gives the element of `ys` at its
place. -/
theorem mapM_eq_ok_iff (l : List α) (ys : List β) :
  l.mapM f = .ok ys ↔ List.Forall₂ (fun x y => f x = .ok y) l ys
  := by
  induction l generalizing ys with
  | nil => cases ys <;> simp [pure, Except.pure]
  | cons x l ih =>
    rw [List.mapM_cons]
    cases hx : f x with
    | error e => cases ys <;> simp [bind, Except.bind, hx]
    | ok y =>
      cases hl : l.mapM f with
      | error e => cases ys <;> simp [bind, Except.bind, ← ih, hl, hx]
      | ok zs => cases ys <;> simp [bind, Except.bind, pure, Except.pure, ← ih, hl, hx]

/-- A traversal fails with the error of the first element that fails. -/
theorem mapM_eq_error_iff (l : List α) (e : ε) :
  l.mapM f = .error e ↔
    ∃ pre x post, l = pre ++ x :: post ∧ (∀ y ∈ pre, ∃ z, f y = .ok z) ∧ f x = .error e
  := by
  induction l with
  | nil => simp [pure, Except.pure]
  | cons x l ih =>
    rw [List.mapM_cons]
    cases hx : f x with
    | error e' =>
      simp only [bind, Except.bind, Except.error.injEq]
      constructor
      · rintro rfl
        exact ⟨[], x, l, rfl, by simp, hx⟩
      · rintro ⟨pre, x', post, hsplit, hpre, hx'⟩
        cases pre with
        | nil =>
          obtain ⟨rfl, -⟩ := List.cons_eq_cons.1 hsplit
          rw [hx] at hx'
          exact Except.error.inj hx'
        | cons y pre =>
          obtain ⟨rfl, -⟩ := List.cons_eq_cons.1 hsplit
          obtain ⟨z, hz⟩ := hpre _ List.mem_cons_self
          rw [hx] at hz
          cases hz
    | ok y =>
      have hbind : (Except.ok y >>= fun z => l.mapM f >>= fun zs => pure (z :: zs)) =
          .error e ↔ l.mapM f = .error e := by
        cases l.mapM f <;> simp [bind, Except.bind, pure, Except.pure]
      rw [hbind, ih]
      constructor
      · rintro ⟨pre, x', post, rfl, hpre, hx'⟩
        refine ⟨x :: pre, x', post, rfl, fun z hz => ?_, hx'⟩
        rcases List.mem_cons.1 hz with rfl | hz
        · exact ⟨y, hx⟩
        · exact hpre z hz
      · rintro ⟨pre, x', post, hsplit, hpre, hx'⟩
        cases pre with
        | nil =>
          obtain ⟨rfl, -⟩ := List.cons_eq_cons.1 hsplit
          rw [hx] at hx'
          cases hx'
        | cons z pre =>
          obtain ⟨-, rfl⟩ := List.cons_eq_cons.1 hsplit
          exact ⟨pre, x', post, rfl, fun w hw => hpre w (List.mem_cons_of_mem z hw), hx'⟩

end MapM

/-! ### Words -/

namespace Text

/-- The words read so far with `current` pending are the non-empty pieces between blanks. -/
theorem wordsAux_eq_filter (current cs : List Char) :
  wordsAux current cs = (cs.splitOnPPrepend isBlank current).filter (!·.isEmpty)
  := by
  induction cs generalizing current with
  | nil =>
    cases current <;> simp [wordsAux]
  | cons c cs ih =>
    by_cases hc : isBlank c = true
    · rw [List.splitOnPPrepend_cons_pos hc, ← List.splitOnPPrepend_nil_right]
      cases current <;> simp [wordsAux, hc, ih]
    · rw [List.splitOnPPrepend_cons_neg (by simpa using hc)]
      simp [wordsAux, hc, ih]

/-- The words of a text are its pieces between blank characters, empty pieces dropped. -/
theorem words_eq_splitOnP (s : String) :
  words s = ((s.toList.splitOnP isBlank).filter (!·.isEmpty)).map String.ofList
  := by
  rw [words, wordsAux_eq_filter, List.splitOnPPrepend_nil_right]

/-- Pieces with no blank joined by single spaces split back into those pieces. -/
theorem splitOnP_intercalate_space (css : List (List Char)) (hne : css ≠ [])
    (h : ∀ cs ∈ css, ∀ c ∈ cs, isBlank c = false) :
  ([' '].intercalate css).splitOnP isBlank = css
  := by
  induction css with
  | nil => exact absurd rfl hne
  | cons cs rest ih =>
    cases rest with
    | nil => simpa using List.splitOnP_eq_singleton (h cs List.mem_cons_self)
    | cons cs' rest =>
      have hspace : isBlank ' ' = true := by decide
      rw [List.intercalate_cons_cons, List.append_assoc, List.singleton_append,
        List.splitOnP_append_cons_of_forall_mem (h cs List.mem_cons_self) ' ' hspace,
        ih (List.cons_ne_nil _ _) fun ds hds => h ds (List.mem_cons_of_mem cs hds)]

/-- Words with no blank joined by single spaces are the words of the joined text. -/
theorem words_intercalate_space (ts : List String)
    (h : ∀ t ∈ ts, t.toList ≠ [] ∧ ∀ c ∈ t.toList, isBlank c = false) :
  words (" ".intercalate ts) = ts
  := by
  cases ts with
  | nil => rfl
  | cons t ts =>
    have hpieces := splitOnP_intercalate_space ((t :: ts).map String.toList) (by simp)
      fun cs hcs => by
        obtain ⟨u, hu, rfl⟩ := List.mem_map.1 hcs
        exact (h u hu).2
    have hkept : ((t :: ts).map String.toList).filter (!·.isEmpty) =
        (t :: ts).map String.toList := by
      rw [List.filter_eq_self]
      intro cs hcs
      obtain ⟨u, hu, rfl⟩ := List.mem_map.1 hcs
      simpa using (h u hu).1
    have hspace : " ".toList = [' '] := rfl
    rw [words_eq_splitOnP, String.toList_intercalate, hspace, hpieces, hkept, List.map_map]
    simp

end Text

/-! ### Hexadecimal numerals -/

namespace Hex

/-- `c` is the hexadecimal digit of value `d`, in lower or upper case. -/
def IsDigit (c : Char) (d : Nat) : Prop := d < 16 ∧ (c = digit d ∨ c = (digit d).toUpper)

instance (c : Char) (d : Nat) : Decidable (IsDigit c d) := inferInstanceAs (Decidable (_ ∧ _))

/-- `w` is a hexadecimal numeral of value `v`: an optional `+`, then one or more digits of either
case, the most significant first. -/
def IsNumeral (w : String) (v : Nat) : Prop :=
  ∃ (sign digits : List Char) (ds : List Nat), (sign = [] ∨ sign = ['+']) ∧
    w.toList = sign ++ digits ∧ digits ≠ [] ∧ List.Forall₂ IsDigit digits ds ∧
    v = Nat.ofDigits 16 ds.reverse

theorem digitValue?_digit {d : Nat} (hd : d < 16) :
  digitValue? (digit d) = some d ∧ digitValue? (digit d).toUpper = some d
  := by
  revert d
  decide

theorem toNat_digit {d : Nat} (hd : d < 16) :
  (digit d).toNat = (if d < 10 then 48 + d else 87 + d) ∧
    (digit d).toUpper.toNat = (if d < 10 then 48 + d else 55 + d)
  := by
  revert d
  decide

theorem isBlank_digit {d : Nat} (hd : d < 16) :
  Text.isBlank (digit d) = false ∧ Text.isBlank (digit d).toUpper = false
  := by
  revert d
  decide

/-- A character of a range has its code between the codes of the range's ends. -/
theorem toNat_between {a b c : Char} (h : a ≤ c ∧ c ≤ b) :
  a.toNat ≤ c.toNat ∧ c.toNat ≤ b.toNat
  := by
  rw [Char.le_def, Char.le_def, UInt32.le_iff_toNat_le, UInt32.le_iff_toNat_le] at h
  exact h

/-- The digit reader answers exactly the value of a digit of either case. -/
theorem digitValue?_eq_some_iff (c : Char) (d : Nat) : digitValue? c = some d ↔ IsDigit c d := by
  constructor
  · intro h
    unfold digitValue? at h
    split_ifs at h with hdec hlow hup <;> cases h
    · obtain ⟨h₁, h₂⟩ := toNat_between hdec
      simp only [Char.reduceToNat] at h₁ h₂
      have hlt : c.toNat - 48 < 16 := by omega
      refine ⟨hlt, .inl (Char.toNat_inj.1 ?_)⟩
      rw [(toNat_digit hlt).1]
      split_ifs <;> omega
    · obtain ⟨h₁, h₂⟩ := toNat_between hlow
      simp only [Char.reduceToNat] at h₁ h₂
      have hlt : c.toNat - 87 < 16 := by omega
      refine ⟨hlt, .inl (Char.toNat_inj.1 ?_)⟩
      rw [(toNat_digit hlt).1]
      split_ifs <;> omega
    · obtain ⟨h₁, h₂⟩ := toNat_between hup
      simp only [Char.reduceToNat] at h₁ h₂
      have hlt : c.toNat - 55 < 16 := by omega
      refine ⟨hlt, .inr (Char.toNat_inj.1 ?_)⟩
      rw [(toNat_digit hlt).2]
      split_ifs <;> omega
  · rintro ⟨hd, rfl | rfl⟩
    · exact (digitValue?_digit hd).1
    · exact (digitValue?_digit hd).2

theorem IsDigit.not_blank {c : Char} {d : Nat} (h : IsDigit c d) : Text.isBlank c = false := by
  obtain ⟨hd, rfl | rfl⟩ := h
  · exact (isBlank_digit hd).1
  · exact (isBlank_digit hd).2

theorem IsDigit.ne_plus {c : Char} {d : Nat} (h : IsDigit c d) : c ≠ '+' := by
  rintro rfl
  have hplus : digitValue? '+' = none := by decide
  rw [(digitValue?_eq_some_iff _ _).2 h] at hplus
  cases hplus

theorem IsDigit.ne_wildcard {c : Char} {d : Nat} (h : IsDigit c d) : c ≠ '?' := by
  rintro rfl
  have hmark : digitValue? '?' = none := by decide
  rw [(digitValue?_eq_some_iff _ _).2 h] at hmark
  cases hmark

/-- Reading digits one by one from `acc` on, the most significant first. -/
theorem foldlM_digitValue?_eq_some_iff (cs : List Char) (acc v : Nat) :
  cs.foldlM (fun acc c => (digitValue? c).map (acc * 16 + ·)) acc = some v ↔
    ∃ ds, List.Forall₂ IsDigit cs ds ∧ v = ds.foldl (fun a d => a * 16 + d) acc
  := by
  induction cs generalizing acc with
  | nil => simp [eq_comm]
  | cons c cs ih =>
    rw [List.foldlM_cons]
    cases hc : digitValue? c with
    | none =>
      simp only [Option.map_none, Option.bind_eq_bind, Option.bind_none, reduceCtorEq, false_iff,
        not_exists, not_and]
      intro ds hds
      obtain ⟨d, ds', hd, -, rfl⟩ := List.forall₂_cons_left_iff.1 hds
      rw [(digitValue?_eq_some_iff c d).2 hd] at hc
      cases hc
    | some d =>
      simp only [Option.map_some, Option.bind_eq_bind, Option.bind_some, ih]
      constructor
      · rintro ⟨ds, hds, rfl⟩
        exact ⟨d :: ds, .cons ((digitValue?_eq_some_iff c d).1 hc) hds, rfl⟩
      · rintro ⟨ds, hds, rfl⟩
        obtain ⟨d', ds', hd', hrest, rfl⟩ := List.forall₂_cons_left_iff.1 hds
        obtain rfl : d' = d := Option.some_injective _
          (((digitValue?_eq_some_iff c d').2 hd').symm.trans hc)
        exact ⟨ds', hrest, rfl⟩

/-- Reading digits most significant first is taking them least significant first. -/
theorem foldl_eq_ofDigits (ds : List Nat) :
  ds.foldl (fun a d => a * 16 + d) 0 = Nat.ofDigits 16 ds.reverse
  := by
  rw [Nat.ofDigits_eq_foldr, List.foldr_reverse]
  congr 1
  funext a d
  rw [Nat.cast_id]
  ring

end Hex

namespace Pattern

theorem hexValue?_eq_some_iff (digits : List Char) (v : Nat) :
  hexValue? digits = some v ↔
    digits ≠ [] ∧ ∃ ds, List.Forall₂ Hex.IsDigit digits ds ∧ v = Nat.ofDigits 16 ds.reverse
  := by
  unfold hexValue?
  cases digits with
  | nil => simp
  | cons c cs =>
    simp only [List.isEmpty_cons, Bool.false_eq_true, if_false, ne_eq, reduceCtorEq,
      not_false_eq_true, true_and, Hex.foldlM_digitValue?_eq_some_iff, Hex.foldl_eq_ofDigits]

/-- Once the sign is set apart, a word is the byte its digits write, when they write one. -/
theorem byteOfWord?_eq_some_iff_digits {w : String} {digits : List Char}
    (hsign : w.toList = digits ∧ digits.head? ≠ some '+' ∨ w.toList = '+' :: digits)
    (b : UInt8) : byteOfWord? w = some b ↔ hexValue? digits = some b.toNat
  := by
  have hdigits : byteOfWord? w =
      (hexValue? digits).bind fun n => if n < 256 then some n.toUInt8 else none := by
    unfold byteOfWord?
    rcases hsign with ⟨hw, hhead⟩ | hw
    · split
      · rename_i rest hplus
        rw [hw] at hplus
        simp [hplus] at hhead
      · simp only [hw]
        cases hexValue? digits <;> rfl
    · simp only [hw]
      cases hexValue? digits <;> rfl
  rw [hdigits]
  cases hexValue? digits with
  | none => simp
  | some n =>
    simp only [Option.bind_some, Option.some.injEq]
    constructor
    · intro h
      split_ifs at h with hn
      cases h
      simp [Nat.toUInt8, Nat.mod_eq_of_lt hn]
    · rintro rfl
      simp [b.toNat_lt, Nat.toUInt8]

/-- A word is read as a byte exactly when it is a hexadecimal numeral of the byte's value. -/
theorem byteOfWord?_eq_some_iff (w : String) (b : UInt8) :
  byteOfWord? w = some b ↔ Hex.IsNumeral w b.toNat
  := by
  constructor
  · intro h
    by_cases hplus : ∃ rest, w.toList = '+' :: rest
    · obtain ⟨rest, hw⟩ := hplus
      obtain ⟨hne, ds, hds, hv⟩ :=
        (hexValue?_eq_some_iff _ _).1 ((byteOfWord?_eq_some_iff_digits (.inr hw) b).1 h)
      exact ⟨['+'], rest, ds, .inr rfl, hw, hne, hds, hv⟩
    · have hhead : w.toList.head? ≠ some '+' := by
        intro hhead
        obtain ⟨rest, hw⟩ : ∃ rest, w.toList = '+' :: rest := by
          cases hw : w.toList with
          | nil => simp [hw] at hhead
          | cons c rest => simp only [hw, List.head?_cons, Option.some.injEq] at hhead; simp [hhead]
        exact hplus ⟨rest, hw⟩
      obtain ⟨hne, ds, hds, hv⟩ := (hexValue?_eq_some_iff _ _).1
        ((byteOfWord?_eq_some_iff_digits (.inl ⟨rfl, hhead⟩) b).1 h)
      exact ⟨[], w.toList, ds, .inl rfl, rfl, hne, hds, hv⟩
  · rintro ⟨sign, digits, ds, hsign, hw, hne, hds, hv⟩
    have hvalue : hexValue? digits = some b.toNat := (hexValue?_eq_some_iff _ _).2 ⟨hne, ds, hds, hv⟩
    rcases hsign with rfl | rfl
    · have hhead : digits.head? ≠ some '+' := by
        obtain ⟨c, d, cs, ds', hc, -, rfl, -⟩ : ∃ c d cs ds', Hex.IsDigit c d ∧
            List.Forall₂ Hex.IsDigit cs ds' ∧ digits = c :: cs ∧ ds = d :: ds' := by
          cases digits with
          | nil => exact absurd rfl hne
          | cons c cs =>
            obtain ⟨d, ds', hd, hrest, rfl⟩ := List.forall₂_cons_left_iff.1 hds
            exact ⟨c, d, cs, ds', hd, hrest, rfl, rfl⟩
        simpa using hc.ne_plus
      exact (byteOfWord?_eq_some_iff_digits (.inl ⟨hw, hhead⟩) b).2 hvalue
    · exact (byteOfWord?_eq_some_iff_digits (.inr hw) b).2 hvalue

/-- Each character of a numeral is its sign or one of its digits. -/
theorem mem_of_isNumeral {w : String} {v : Nat} (h : Hex.IsNumeral w v) :
  ∀ c ∈ w.toList, c = '+' ∨ ∃ d, Hex.IsDigit c d
  := by
  obtain ⟨sign, digits, ds, hsign, hw, -, hds, -⟩ := h
  intro c hc
  rw [hw, List.mem_append] at hc
  rcases hc with hc | hc
  · rcases hsign with rfl | rfl
    · cases hc
    · exact .inl (List.mem_singleton.1 hc)
  · obtain ⟨i, hi, rfl⟩ := List.getElem_of_mem hc
    have hi' : i < ds.length := hds.length_eq ▸ hi
    exact .inr ⟨ds.get ⟨i, hi'⟩, hds.get hi hi'⟩

theorem not_wildcard_of_isNumeral {w : String} {v : Nat} (h : Hex.IsNumeral w v) :
  ¬ (w = "?" ∨ w = "??")
  := by
  have hmark : '?' ∉ w.toList := by
    intro hmem
    rcases mem_of_isNumeral h '?' hmem with hplus | ⟨d, hd⟩
    · cases hplus
    · exact hd.ne_wildcard rfl
  rintro (rfl | rfl) <;> simp at hmark

/-- The word `w` of a pattern's text reads as the element `x`: a wildcard is written `?` or
`??`, a byte as a hexadecimal numeral of its value. -/
def WordReads (w : String) : Option UInt8 → Prop
  | none => w = "?" ∨ w = "??"
  | some b => Hex.IsNumeral w b.toNat

theorem parseWord_eq_ok_iff (w : String) (x : Option UInt8) :
  parseWord w = .ok x ↔ WordReads w x
  := by
  unfold parseWord
  by_cases hw : w = "?" ∨ w = "??"
  · rw [if_pos hw]
    cases x with
    | none => simpa [WordReads] using hw
    | some b => simpa [WordReads] using mt not_wildcard_of_isNumeral (not_not.2 hw)
  · rw [if_neg hw]
    cases hb : byteOfWord? w with
    | none =>
      cases x with
      | none => simpa [WordReads] using hw
      | some b => simp [WordReads, ← byteOfWord?_eq_some_iff, hb]
    | some b =>
      cases x with
      | none => simpa [WordReads] using hw
      | some b' => simp [WordReads, ← byteOfWord?_eq_some_iff, hb]

theorem parseWord_eq_error_iff (w : String) (e : GamedataError) :
  parseWord w = .error e ↔
    (∀ x, ¬ WordReads w x) ∧ e = .invalidSignature ("Invalid hex byte: " ++ w)
  := by
  have hnone : (∀ x, ¬ WordReads w x) ↔ ¬ (w = "?" ∨ w = "??") ∧ byteOfWord? w = none := by
    constructor
    · intro h
      refine ⟨h none, ?_⟩
      cases hb : byteOfWord? w with
      | none => rfl
      | some b => exact absurd ((byteOfWord?_eq_some_iff w b).1 hb) (h (some b))
    · rintro ⟨hw, hb⟩ (_ | b) hx
      · exact hw hx
      · have hnum : Hex.IsNumeral w b.toNat := hx
        rw [← byteOfWord?_eq_some_iff, hb] at hnum
        cases hnum
  rw [hnone]
  unfold parseWord
  by_cases hw : w = "?" ∨ w = "??"
  · simp [hw]
  · rw [if_neg hw]
    cases byteOfWord? w with
    | none => simp [hw, eq_comm]
    | some b => simp

/-- `t` prints the element `x`: a wildcard as `?`, a byte as two hexadecimal digits of either
case, the high four bits first. -/
def Prints (t : String) : Option UInt8 → Prop
  | none => t = "?"
  | some b => ∃ hi lo, t.toList = [hi, lo] ∧ Hex.IsDigit hi (b.toNat / 16) ∧
      Hex.IsDigit lo (b.toNat % 16)

theorem Prints.wordReads {t : String} {x : Option UInt8} (h : Prints t x) : WordReads t x := by
  cases x with
  | none => exact .inl h
  | some b =>
    obtain ⟨hi, lo, ht, hhi, hlo⟩ := h
    refine ⟨[], [hi, lo], [b.toNat / 16, b.toNat % 16], .inl rfl, ht, by simp,
      .cons hhi (.cons hlo .nil), ?_⟩
    simp [Nat.ofDigits]
    omega

theorem Prints.blank_free {t : String} {x : Option UInt8} (h : Prints t x) :
  t.toList ≠ [] ∧ ∀ c ∈ t.toList, Text.isBlank c = false
  := by
  cases x with
  | none =>
    rw [h, show "?".toList = ['?'] from rfl]
    refine ⟨by simp, fun c hc => ?_⟩
    rw [List.mem_singleton.1 hc]
    decide
  | some b =>
    obtain ⟨hi, lo, ht, hhi, hlo⟩ := h
    rw [ht]
    refine ⟨by simp, fun c hc => ?_⟩
    rcases List.mem_pair.1 hc with rfl | rfl
    · exact hhi.not_blank
    · exact hlo.not_blank

theorem words_ne_nil_iff {s : String} {p : Pattern}
    (h : (Text.words s).mapM parseWord = .ok p) : Text.words s ≠ [] ↔ p ≠ []
  := by
  have hlen := ((mapM_eq_ok_iff _ _).1 h).length_eq
  rw [ne_eq, ne_eq, ← List.length_eq_zero_iff, ← List.length_eq_zero_iff, hlen]

/-- Reading accepts exactly the texts with at least one word, each a wildcard or the numeral of
a byte, and gives their elements in order. -/
theorem parse_eq_ok_iff (s : String) (p : Pattern) :
  parse s = .ok p ↔ Text.words s ≠ [] ∧ List.Forall₂ WordReads (Text.words s) p
  := by
  have hreads : List.Forall₂ WordReads (Text.words s) p ↔
      (Text.words s).mapM parseWord = .ok p := by
    simp only [mapM_eq_ok_iff, parseWord_eq_ok_iff]
  rw [hreads]
  unfold parse
  cases hm : (Text.words s).mapM parseWord with
  | error e => simp [bind, Except.bind]
  | ok q =>
    rw [words_ne_nil_iff hm]
    by_cases hq : q = []
    · simp [bind, Except.bind, hq, throw, throwThe, MonadExceptOf.throw]
    · simp [bind, Except.bind, hq, pure, Except.pure]

/-- Every other text is refused as an invalid signature: for a text with no word, or naming the
first word that is neither a wildcard nor the numeral of a byte. -/
theorem parse_eq_error_iff (s : String) (e : GamedataError) :
  parse s = .error e ↔
    Text.words s = [] ∧ e = .invalidSignature "Empty signature pattern" ∨
    ∃ pre w post, Text.words s = pre ++ w :: post ∧ (∀ v ∈ pre, ∃ x, WordReads v x) ∧
      (∀ x, ¬ WordReads w x) ∧ e = .invalidSignature ("Invalid hex byte: " ++ w)
  := by
  have hfirst : (∃ pre w post, Text.words s = pre ++ w :: post ∧ (∀ v ∈ pre, ∃ x, WordReads v x) ∧
      (∀ x, ¬ WordReads w x) ∧ e = .invalidSignature ("Invalid hex byte: " ++ w)) ↔
      (Text.words s).mapM parseWord = .error e := by
    simp only [mapM_eq_error_iff, parseWord_eq_ok_iff, parseWord_eq_error_iff]
  rw [hfirst]
  unfold parse
  cases hm : (Text.words s).mapM parseWord with
  | error e' =>
    have hwords : Text.words s ≠ [] := by
      intro hnil
      rw [hnil] at hm
      cases hm
    simp [bind, Except.bind, hwords]
  | ok q =>
    have hempty := words_ne_nil_iff hm
    by_cases hq : q = []
    · have hwords : Text.words s = [] := not_not.1 (mt hempty.1 (not_not.2 hq))
      simp [bind, Except.bind, hq, hwords, throw, throwThe, MonadExceptOf.throw, eq_comm]
    · have hwords : Text.words s ≠ [] := hempty.2 hq
      simp [bind, Except.bind, hq, hwords, pure, Except.pure]

/-- Printing each element and joining the words with single spaces gives a text that reads
back as the pattern. -/
theorem parse_intercalate_of_prints (p : Pattern) (ts : List String) (hp : p ≠ [])
    (h : List.Forall₂ Prints ts p) : parse (" ".intercalate ts) = .ok p
  := by
  have hblank : ∀ t ∈ ts, t.toList ≠ [] ∧ ∀ c ∈ t.toList, Text.isBlank c = false := by
    clear hp
    induction h with
    | nil => simp
    | cons hx _ ih =>
      intro t ht
      rcases List.mem_cons.1 ht with rfl | ht
      · exact hx.blank_free
      · exact ih t ht
  rw [parse_eq_ok_iff, Text.words_intercalate_space ts hblank]
  refine ⟨fun hnil => hp ?_, h.imp fun _ _ hx => hx.wordReads⟩
  subst hnil
  exact List.forall₂_nil_left_iff.1 h

/-- The canonical text prints every element: bytes as two upper-case digits. -/
theorem prints_render (p : Pattern) :
    List.Forall₂ Prints (p.map fun
      | some b => String.ofList ((Hex.byteDigits b).map Char.toUpper)
      | none => "?") p := by
  rw [List.forall₂_map_left_iff, List.forall₂_same]
  intro x _
  cases x with
  | none => rfl
  | some b =>
    have hhi : b.toNat / 16 < 16 := by have := b.toNat_lt; omega
    have hlo : b.toNat % 16 < 16 := Nat.mod_lt _ (by omega)
    exact ⟨(Hex.digit (b.toNat / 16)).toUpper, (Hex.digit (b.toNat % 16)).toUpper,
      by simp [Hex.byteDigits], ⟨hhi, .inr rfl⟩, ⟨hlo, .inr rfl⟩⟩

theorem parse_render (p : Pattern) (hp : p ≠ []) : parse p.render = .ok p :=
  parse_intercalate_of_prints p _ hp (prints_render p)

/-- Reading a pattern accepts exactly its grammar and inverts printing.  The words of a text are
its pieces between blanks, empty pieces dropped.  A text reads as `p` exactly when it has a word
and its words read, in order, as the elements of `p`: `?` and `??` as wildcards, a hexadecimal
numeral of value at most 255 (an optional `+`, then one or more digits of either case) as its
byte.  Any other text is refused as an invalid signature: with no word, or naming the first
word that reads as nothing.  A non-empty pattern printed element by element, a byte as two
hexadecimal digits of either case and a wildcard as `?`, with single spaces between, reads back
as itself; so does its canonical text. -/
theorem parse_accepts_grammar_and_inverts_printing :
  (∀ s : String, Text.words s =
    ((s.toList.splitOnP Text.isBlank).filter (!·.isEmpty)).map String.ofList) ∧
  (∀ (s : String) (p : Pattern), parse s = .ok p ↔
    Text.words s ≠ [] ∧ List.Forall₂ WordReads (Text.words s) p) ∧
  (∀ (s : String) (e : GamedataError), parse s = .error e ↔
    Text.words s = [] ∧ e = .invalidSignature "Empty signature pattern" ∨
    ∃ pre w post, Text.words s = pre ++ w :: post ∧ (∀ v ∈ pre, ∃ x, WordReads v x) ∧
      (∀ x, ¬ WordReads w x) ∧ e = .invalidSignature ("Invalid hex byte: " ++ w)) ∧
  (∀ (p : Pattern) (ts : List String), p ≠ [] → List.Forall₂ Prints ts p →
    parse (" ".intercalate ts) = .ok p) ∧
  ∀ p : Pattern, p ≠ [] → parse p.render = .ok p
  :=
  ⟨Text.words_eq_splitOnP, parse_eq_ok_iff, parse_eq_error_iff, parse_intercalate_of_prints,
    parse_render⟩

/-- The pattern `55 ? 89 E5`, printed with a lower-case last byte, and its canonical text both
read back as the pattern. -/
theorem parse_reads_printed_signature :
  let p : Pattern := [some 0x55, none, some 0x89, some 0xE5]
  let ts := ["55", "?", "89", "e5"]
  p ≠ [] ∧ List.Forall₂ Prints ts p ∧ parse (" ".intercalate ts) = .ok p ∧
    parse p.render = .ok p
  := by
  intro p ts
  have hne : p ≠ [] := by decide
  have hprints : List.Forall₂ Prints ts p :=
    .cons ⟨'5', '5', rfl, by decide, by decide⟩ <| .cons rfl <|
      .cons ⟨'8', '9', rfl, by decide, by decide⟩ <|
      .cons ⟨'e', '5', rfl, by decide, by decide⟩ .nil
  exact ⟨hne, hprints, parse_accepts_grammar_and_inverts_printing.2.2.2.1 p ts hne hprints,
    parse_accepts_grammar_and_inverts_printing.2.2.2.2 p hne⟩

end Pattern

end EngineSdk
