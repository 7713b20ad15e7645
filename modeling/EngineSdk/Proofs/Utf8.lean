import Mathlib
import EngineSdk.Text.Utf8

/-!
# Well-formed UTF-8 reads as itself

`Utf8.decodeChars` reads a sequence of one to four bytes whenever the lead byte announces it and
the first byte after it lies in the range the lead byte allows (`decodeChars_one` to
`decodeChars_four`).  The bytes `String.utf8EncodeChar c` of a character are such a sequence:
a two-byte lead is never `0xC0` or `0xC1`, a three-byte sequence encodes neither fewer than
twelve bits nor a surrogate, and a four-byte one neither fewer than seventeen bits nor more than
`0x10FFFF` (`leadInfo_two` to `leadInfo_four`).  The sequence reads as `c`
(`decodeChars_utf8EncodeChar_append`), so the bytes of a string read back as the string with no
replacement (`decodeLossy_toUTF8`).
-/

namespace EngineSdk.Utf8

/-! ### Bytes as numbers -/


/-- A mask of the low `k` bits keeps the byte's value modulo `2 ^ k`. -/
theorem toNat_and_mask (b m : UInt8) (k : Nat) (hm : m.toNat = 2 ^ k - 1) :
  (b &&& m).toNat = b.toNat % 2 ^ k
  := by
  rw [UInt8.toNat_and, hm, Nat.and_two_pow_sub_one_eq_mod]

theorem low6_eq (b : UInt8) : low6 b = b.toNat % 64 :=
  toNat_and_mask b 0x3F 6 rfl

/-! ### Reading one sequence -/

theorem decodeChars_one {b : UInt8} (hb : b.toNat < 128) (rest : List UInt8) :
  decodeChars (b :: rest) = Char.ofNat b.toNat :: decodeChars rest
  := by
  have hlead : leadInfo b = some (0, 0, 0) := by
    simp [leadInfo, UInt8.lt_iff_toNat_lt, hb]
  rw [decodeChars, hlead]
  rfl

/-- A two-byte sequence: five bits of the lead byte, then six of the next. -/
theorem decodeChars_two {b c₁ lo hi : UInt8} (hb : leadInfo b = some (1, lo, hi))
    (hc₁ : lo ≤ c₁ ∧ c₁ ≤ hi) (rest : List UInt8) :
  decodeChars (b :: c₁ :: rest) =
    Char.ofNat ((b &&& 0x1F).toNat * 64 + low6 c₁) :: decodeChars rest
  := by
  rw [decodeChars, hb]
  simp [hc₁]

/-- A three-byte sequence: four bits of the lead byte, then six of each next byte. -/
theorem decodeChars_three {b c₁ c₂ lo hi : UInt8} (hb : leadInfo b = some (2, lo, hi))
    (hc₁ : lo ≤ c₁ ∧ c₁ ≤ hi) (hc₂ : isCont c₂ = true) (rest : List UInt8) :
  decodeChars (b :: c₁ :: c₂ :: rest) =
    Char.ofNat ((b &&& 0x0F).toNat * 4096 + low6 c₁ * 64 + low6 c₂) :: decodeChars rest
  := by
  rw [decodeChars, hb]
  simp [hc₁, hc₂]

/-- A four-byte sequence: three bits of the lead byte, then six of each next byte. -/
theorem decodeChars_four {b c₁ c₂ c₃ lo hi : UInt8} (hb : leadInfo b = some (3, lo, hi))
    (hc₁ : lo ≤ c₁ ∧ c₁ ≤ hi) (hc₂ : isCont c₂ = true) (hc₃ : isCont c₃ = true)
    (rest : List UInt8) :
  decodeChars (b :: c₁ :: c₂ :: c₃ :: rest) =
    Char.ofNat ((b &&& 0x07).toNat * 262144 + low6 c₁ * 4096 + low6 c₂ * 64 + low6 c₃) ::
      decodeChars rest
  := by
  rw [decodeChars, hb]
  simp [hc₁, hc₂, hc₃]

/-! ### The sequences a character is written as -/

/-- A lead byte `0xC2` to `0xDF` announces one more byte, in `0x80` to `0xBF`. -/
theorem leadInfo_two {x : Nat} (h₁ : 0xC2 ≤ x) (h₂ : x ≤ 0xDF) :
  leadInfo (UInt8.ofNat x) = some (1, 0x80, 0xBF)
  := by
  have hx := UInt8.toNat_ofNat_of_lt' (n := x) (show _ < 256 by omega)
  unfold leadInfo
  simp only [UInt8.lt_iff_toNat_lt, UInt8.le_iff_toNat_le, ← UInt8.toNat_inj, hx, UInt8.reduceToNat]
  rw [if_neg (show ¬x < 128 by omega), if_pos ⟨h₁, h₂⟩]

/-- A lead byte `0xE0` to `0xEF` announces two more bytes, and accepts a first one that is
neither overlong after `0xE0` nor a surrogate after `0xED`. -/
theorem leadInfo_three {x y : Nat} (hx₁ : 0xE0 ≤ x) (hx₂ : x ≤ 0xEF) (hy₁ : 0x80 ≤ y)
    (hy₂ : y ≤ 0xBF) (hE0 : x = 0xE0 → 0xA0 ≤ y) (hED : x = 0xED → y ≤ 0x9F) :
  ∃ lo hi, leadInfo (UInt8.ofNat x) = some (2, lo, hi) ∧
    lo ≤ UInt8.ofNat y ∧ UInt8.ofNat y ≤ hi
  := by
  have hx := UInt8.toNat_ofNat_of_lt' (n := x) (show _ < 256 by omega)
  have hy := UInt8.toNat_ofNat_of_lt' (n := y) (show _ < 256 by omega)
  unfold leadInfo
  simp only [UInt8.lt_iff_toNat_lt, UInt8.le_iff_toNat_le, ← UInt8.toNat_inj, hx, hy, UInt8.reduceToNat]
  obtain rfl | hx | rfl | hx :
      x = 0xE0 ∨ (0xE1 ≤ x ∧ x ≤ 0xEC) ∨ x = 0xED ∨ (0xEE ≤ x ∧ x ≤ 0xEF) := by omega
  · have := hE0 rfl
    exact ⟨0xA0, 0xBF, by simp, by simp only [UInt8.reduceToNat]; omega,
      by simp only [UInt8.reduceToNat]; omega⟩
  · simp (disch := omega) only [if_pos, if_neg]
    exact ⟨_, _, rfl, by simp only [UInt8.reduceToNat]; omega,
      by simp only [UInt8.reduceToNat]; omega⟩
  · have := hED rfl
    exact ⟨0x80, 0x9F, by simp, by simp only [UInt8.reduceToNat]; omega,
      by simp only [UInt8.reduceToNat]; omega⟩
  · simp (disch := omega) only [if_pos, if_neg]
    exact ⟨_, _, rfl, by simp only [UInt8.reduceToNat]; omega,
      by simp only [UInt8.reduceToNat]; omega⟩

/-- A lead byte `0xF0` to `0xF4` announces three more bytes, and accepts a first one that is
neither overlong after `0xF0` nor past `0x10FFFF` after `0xF4`. -/
theorem leadInfo_four {x y : Nat} (hx₁ : 0xF0 ≤ x) (hx₂ : x ≤ 0xF4) (hy₁ : 0x80 ≤ y)
    (hy₂ : y ≤ 0xBF) (hF0 : x = 0xF0 → 0x90 ≤ y) (hF4 : x = 0xF4 → y ≤ 0x8F) :
  ∃ lo hi, leadInfo (UInt8.ofNat x) = some (3, lo, hi) ∧
    lo ≤ UInt8.ofNat y ∧ UInt8.ofNat y ≤ hi
  := by
  have hx := UInt8.toNat_ofNat_of_lt' (n := x) (show _ < 256 by omega)
  have hy := UInt8.toNat_ofNat_of_lt' (n := y) (show _ < 256 by omega)
  unfold leadInfo
  simp only [UInt8.lt_iff_toNat_lt, UInt8.le_iff_toNat_le, ← UInt8.toNat_inj, hx, hy, UInt8.reduceToNat]
  obtain rfl | hx | rfl : x = 0xF0 ∨ (0xF1 ≤ x ∧ x ≤ 0xF3) ∨ x = 0xF4 := by omega
  · have := hF0 rfl
    exact ⟨0x90, 0xBF, by simp, by simp only [UInt8.reduceToNat]; omega,
      by simp only [UInt8.reduceToNat]; omega⟩
  · simp (disch := omega) only [if_pos, if_neg]
    exact ⟨_, _, rfl, by simp only [UInt8.reduceToNat]; omega,
      by simp only [UInt8.reduceToNat]; omega⟩
  · have := hF4 rfl
    exact ⟨0x80, 0x8F, by simp, by simp only [UInt8.reduceToNat]; omega,
      by simp only [UInt8.reduceToNat]; omega⟩

theorem isCont_ofNat {y : Nat} (h₁ : 0x80 ≤ y) (h₂ : y ≤ 0xBF) : isCont (UInt8.ofNat y) = true := by
  have hy := UInt8.toNat_ofNat_of_lt' (n := y) (show _ < 256 by omega)
  simp [isCont, UInt8.le_iff_toNat_le, hy]
  omega

theorem decodeChars_encode₁ {v : Nat} (h : v ≤ 127) (rest : List UInt8) :
  decodeChars (UInt8.ofNat v :: rest) = Char.ofNat v :: decodeChars rest
  := by
  have hv := UInt8.toNat_ofNat_of_lt' (n := v) (show _ < 256 by omega)
  rw [decodeChars_one (by omega) rest, hv]

theorem decodeChars_encode₂ {v : Nat} (h₁ : 127 < v) (h₂ : v ≤ 2047) (rest : List UInt8) :
  decodeChars (UInt8.ofNat (v / 64 % 32 + 192) :: UInt8.ofNat (v % 64 + 128) :: rest) =
    Char.ofNat v :: decodeChars rest
  := by
  have hb := UInt8.toNat_ofNat_of_lt' (n := v / 64 % 32 + 192) (show _ < 256 by omega)
  have hc₁ := UInt8.toNat_ofNat_of_lt' (n := v % 64 + 128) (show _ < 256 by omega)
  have hcont : (0x80 : UInt8) ≤ UInt8.ofNat (v % 64 + 128) ∧ UInt8.ofNat (v % 64 + 128) ≤ 0xBF := by
    simp only [UInt8.le_iff_toNat_le, hc₁, UInt8.reduceToNat]
    omega
  rw [decodeChars_two (leadInfo_two (by omega) (by omega)) hcont rest,
    toNat_and_mask _ 0x1F 5 rfl, low6_eq, hb, hc₁]
  congr 2
  omega

theorem decodeChars_encode₃ {v : Nat} (h₁ : 2047 < v) (h₂ : v ≤ 65535)
    (hs : v < 0xD800 ∨ 0xDFFF < v) (rest : List UInt8) :
  decodeChars (UInt8.ofNat (v / 4096 % 16 + 224) :: UInt8.ofNat (v / 64 % 64 + 128) ::
      UInt8.ofNat (v % 64 + 128) :: rest) =
    Char.ofNat v :: decodeChars rest
  := by
  obtain ⟨lo, hi, hlead, hlo, hhi⟩ := leadInfo_three (x := v / 4096 % 16 + 224)
    (y := v / 64 % 64 + 128) (by omega) (by omega) (by omega) (by omega) (by omega) (by omega)
  have hb := UInt8.toNat_ofNat_of_lt' (n := v / 4096 % 16 + 224) (show _ < 256 by omega)
  have hc₁ := UInt8.toNat_ofNat_of_lt' (n := v / 64 % 64 + 128) (show _ < 256 by omega)
  have hc₂ := UInt8.toNat_ofNat_of_lt' (n := v % 64 + 128) (show _ < 256 by omega)
  rw [decodeChars_three hlead ⟨hlo, hhi⟩ (isCont_ofNat (by omega) (by omega)) rest,
    toNat_and_mask _ 0x0F 4 rfl, low6_eq, low6_eq, hb, hc₁, hc₂]
  congr 2
  omega

theorem decodeChars_encode₄ {v : Nat} (h₁ : 65535 < v) (h₂ : v < 0x110000) (rest : List UInt8) :
  decodeChars (UInt8.ofNat (v / 262144 % 8 + 240) :: UInt8.ofNat (v / 4096 % 64 + 128) ::
      UInt8.ofNat (v / 64 % 64 + 128) :: UInt8.ofNat (v % 64 + 128) :: rest) =
    Char.ofNat v :: decodeChars rest
  := by
  obtain ⟨lo, hi, hlead, hlo, hhi⟩ := leadInfo_four (x := v / 262144 % 8 + 240)
    (y := v / 4096 % 64 + 128) (by omega) (by omega) (by omega) (by omega) (by omega) (by omega)
  have hb := UInt8.toNat_ofNat_of_lt' (n := v / 262144 % 8 + 240) (show _ < 256 by omega)
  have hc₁ := UInt8.toNat_ofNat_of_lt' (n := v / 4096 % 64 + 128) (show _ < 256 by omega)
  have hc₂ := UInt8.toNat_ofNat_of_lt' (n := v / 64 % 64 + 128) (show _ < 256 by omega)
  have hc₃ := UInt8.toNat_ofNat_of_lt' (n := v % 64 + 128) (show _ < 256 by omega)
  rw [decodeChars_four hlead ⟨hlo, hhi⟩ (isCont_ofNat (by omega) (by omega))
    (isCont_ofNat (by omega) (by omega)) rest, toNat_and_mask _ 0x07 3 rfl, low6_eq, low6_eq,
    low6_eq, hb, hc₁, hc₂, hc₃]
  congr 2
  omega

/-- The bytes of a character read as the character, whatever follows them. -/
theorem decodeChars_utf8EncodeChar_append (c : Char) (rest : List UInt8) :
  decodeChars (String.utf8EncodeChar c ++ rest) = c :: decodeChars rest
  := by
  have hvalid : c.val.toNat < 0xD800 ∨ (0xDFFF < c.val.toNat ∧ c.val.toNat < 0x110000) := c.valid
  conv_rhs => rw [← Char.ofNat_toNat c]
  unfold String.utf8EncodeChar
  dsimp only
  split_ifs with h₁ h₂ h₃
  · exact decodeChars_encode₁ h₁ rest
  · exact decodeChars_encode₂ (by omega) h₂ rest
  · exact decodeChars_encode₃ (by omega) h₃ (by omega) rest
  · exact decodeChars_encode₄ (by omega) (by omega) rest

theorem decodeChars_flatMap_utf8EncodeChar (cs : List Char) :
  decodeChars (cs.flatMap String.utf8EncodeChar) = cs
  := by
  induction cs with
  | nil => simp [decodeChars]
  | cons c cs ih => rw [List.flatMap_cons, decodeChars_utf8EncodeChar_append, ih]

/-! ### Strings -/

theorem byteArray_toList_loop (bs : ByteArray) (i : Nat) (r : List UInt8) :
  ByteArray.toList.loop bs i r = r.reverse ++ bs.data.toList.drop i
  := by
  fun_induction ByteArray.toList.loop bs i r with
  | case1 i r hi ih =>
    have hlen : i < bs.data.toList.length := by simpa using hi
    have hget : bs.get! i = bs.data.toList[i] := by
      simp [ByteArray.get!, hi]
    rw [ih, List.drop_eq_getElem_cons hlen, hget]
    simp
  | case2 i r hi =>
    rw [List.drop_eq_nil_of_le (by simpa using Nat.le_of_not_lt hi)]
    simp

theorem toList_toByteArray (l : List UInt8) : l.toByteArray.toList = l := by
  rw [ByteArray.toList, byteArray_toList_loop, List.data_toByteArray]
  simp

/-- The bytes of a string are the bytes of its characters. -/
theorem toList_toUTF8 (s : String) : s.toUTF8.toList = s.toList.flatMap String.utf8EncodeChar := by
  rw [String.toUTF8_eq_toByteArray, ← String.utf8Encode_toList, List.utf8Encode,
    toList_toByteArray]

/-- The bytes of a string read back as the string. -/
theorem decodeLossy_toUTF8 (s : String) : decodeLossy s.toUTF8.toList = s := by
  rw [decodeLossy, toList_toUTF8, decodeChars_flatMap_utf8EncodeChar, String.ofList_toList]

end EngineSdk.Utf8
