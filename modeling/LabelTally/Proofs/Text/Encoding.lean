import LabelTally.Proofs.Text.Utf8

/-!
# Encoded text is read back

Every character is decoded from its own bytes, whatever follows them, so decoding undoes encoding.
The bounds on a second byte are met by the bytes of a character because it has no shorter form and
is no surrogate. A byte below 128 stands for itself: it is part of no longer form.
-/

namespace LabelTally.Text.Utf8

/-- A number below 256 is the value of its byte. -/
theorem toNat_toUInt8 {n : Nat} (h : n < 256) : n.toUInt8.toNat = n := by
  rw [Nat.toUInt8_eq, UInt8.toNat_ofNat_of_lt' h]

/-- A byte from `0xc2` to `0xdf` opens a character of two bytes. -/
theorem start_two {b : UInt8} (hleast : 0xc2 ≤ b.toNat) (hmost : b.toNat < 0xe0) :
    start b = .opened (.inside (b.toNat - 0xc0) 1 0x80 0xbf) := by
  simp only [start, UInt8.lt_iff_toNat_lt, UInt8.reduceToNat]
  rw [if_neg (by omega), if_neg (by omega), if_pos hmost]

/-- A byte from `0xe0` to `0xef` opens a character of three bytes. -/
theorem start_three {b : UInt8} (hleast : 0xe0 ≤ b.toNat) (hmost : b.toNat < 0xf0) :
    start b = .opened (.inside (b.toNat - 0xe0) 2 (if b == 0xe0 then 0xa0 else 0x80)
      (if b == 0xed then 0x9f else 0xbf)) := by
  simp only [start, UInt8.lt_iff_toNat_lt, UInt8.reduceToNat]
  rw [if_neg (by omega), if_neg (by omega), if_neg (by omega), if_pos hmost]

/-- A byte from `0xf0` to `0xf4` opens a character of four bytes. -/
theorem start_four {b : UInt8} (hleast : 0xf0 ≤ b.toNat) (hmost : b.toNat < 0xf5) :
    start b = .opened (.inside (b.toNat - 0xf0) 3 (if b == 0xf0 then 0x90 else 0x80)
      (if b == 0xf4 then 0x8f else 0xbf)) := by
  simp only [start, UInt8.lt_iff_toNat_lt, UInt8.reduceToNat]
  rw [if_neg (by omega), if_neg (by omega), if_neg (by omega), if_neg (by omega), if_pos hmost]

/-- A byte after the first has six bits of the code. -/
theorem toNat_continuation (d : Nat) : (0x80 + d % 64).toUInt8.toNat = 0x80 + d % 64 :=
  toNat_toUInt8 (by omega)

section Continuation

variable {bits d : Nat} {least most : UInt8} (hleast : least.toNat ≤ 0x80 + d % 64)
  (hmost : 0x80 + d % 64 ≤ most.toNat) (rest : List UInt8)
include hleast hmost

/-- The last byte of a character completes it. -/
theorem decodeFrom_last :
    decodeFrom (.inside bits 1 least most) ((0x80 + d % 64).toUInt8 :: rest) =
      Char.ofNat (bits * 64 + d % 64) :: decodeFrom .between rest := by
  have hb := toNat_continuation d
  rw [← hb] at hleast hmost
  rw [decodeFrom_inside_cons, if_pos ⟨UInt8.le_iff_toNat_le.mpr hleast,
    UInt8.le_iff_toNat_le.mpr hmost⟩, resume, if_pos (by omega), hb, Nat.add_sub_cancel_left]
  rfl

/-- A byte before the last leaves the character open. -/
theorem decodeFrom_next (missing : Nat) :
    decodeFrom (.inside bits (missing + 2) least most) ((0x80 + d % 64).toUInt8 :: rest) =
      decodeFrom (.inside (bits * 64 + d % 64) (missing + 1) 0x80 0xbf) rest := by
  have hb := toNat_continuation d
  rw [← hb] at hleast hmost
  rw [decodeFrom_inside_cons, if_pos ⟨UInt8.le_iff_toNat_le.mpr hleast,
    UInt8.le_iff_toNat_le.mpr hmost⟩, resume, if_neg (by omega), hb, Nat.add_sub_cancel_left]
  rfl

end Continuation

section Lengths

variable {n : Nat} (rest : List UInt8)

/-- A code below `0x80` is read from one byte. -/
theorem decodeFrom_one (hmost : n < 0x80) :
    decodeFrom .between (n.toUInt8 :: rest) = Char.ofNat n :: decodeFrom .between rest := by
  have hb := toNat_toUInt8 (show n < 256 by omega)
  rw [decodeFrom_between_cons, start, if_pos (by rw [UInt8.lt_iff_toNat_lt, hb]; exact hmost), hb,
    follow]

/-- A code from `0x80` to `0x7ff` is read from two bytes. -/
theorem decodeFrom_two (hleast : 0x80 ≤ n) (hmost : n < 0x800) :
    decodeFrom .between ((0xc0 + n / 64).toUInt8 :: (0x80 + n / 1 % 64).toUInt8 :: rest) =
      Char.ofNat n :: decodeFrom .between rest := by
  have hlead := toNat_toUInt8 (show 0xc0 + n / 64 < 256 by omega)
  rw [decodeFrom_between_cons, start_two (by omega) (by omega), follow, hlead,
    decodeFrom_last (by simp only [UInt8.reduceToNat]; omega)
      (by simp only [UInt8.reduceToNat]; omega)]
  congr 2
  omega

/-- A code from `0x800` to `0xffff` that is no surrogate is read from three bytes. -/
theorem decodeFrom_three (hleast : 0x800 ≤ n) (hmost : n < 0x10000)
    (hgap : n < 0xd800 ∨ 0xe000 ≤ n) :
    decodeFrom .between ((0xe0 + n / 4096).toUInt8 :: (0x80 + n / 64 % 64).toUInt8 ::
      (0x80 + n / 1 % 64).toUInt8 :: rest) = Char.ofNat n :: decodeFrom .between rest := by
  have hlead := toNat_toUInt8 (show 0xe0 + n / 4096 < 256 by omega)
  rw [decodeFrom_between_cons, start_three (by omega) (by omega), follow]
  simp only [beq_iff_eq, ← UInt8.toNat_inj, hlead, UInt8.reduceToNat]
  rw [decodeFrom_next (by split <;> simp only [UInt8.reduceToNat] <;> omega)
      (by split <;> simp only [UInt8.reduceToNat] <;> omega),
    decodeFrom_last (by simp only [UInt8.reduceToNat]; omega)
      (by simp only [UInt8.reduceToNat]; omega)]
  congr 2
  omega

/-- A code from `0x10000` to `0x10ffff` is read from four bytes. -/
theorem decodeFrom_four (hleast : 0x10000 ≤ n) (hmost : n < 0x110000) :
    decodeFrom .between ((0xf0 + n / 262144).toUInt8 :: (0x80 + n / 4096 % 64).toUInt8 ::
      (0x80 + n / 64 % 64).toUInt8 :: (0x80 + n / 1 % 64).toUInt8 :: rest) =
      Char.ofNat n :: decodeFrom .between rest := by
  have hlead := toNat_toUInt8 (show 0xf0 + n / 262144 < 256 by omega)
  rw [decodeFrom_between_cons, start_four (by omega) (by omega), follow]
  simp only [beq_iff_eq, ← UInt8.toNat_inj, hlead, UInt8.reduceToNat]
  rw [decodeFrom_next (by split <;> simp only [UInt8.reduceToNat] <;> omega)
      (by split <;> simp only [UInt8.reduceToNat] <;> omega),
    decodeFrom_next (by simp only [UInt8.reduceToNat]; omega)
      (by simp only [UInt8.reduceToNat]; omega),
    decodeFrom_last (by simp only [UInt8.reduceToNat]; omega)
      (by simp only [UInt8.reduceToNat]; omega)]
  congr 2
  omega

end Lengths

/-- The code of a character lies below the surrogates or above them. -/
theorem toNat_valid (c : Char) : c.toNat < 0xd800 ∨ 0xe000 ≤ c.toNat ∧ c.toNat < 0x110000 := by
  have hvalid := c.valid
  simp only [UInt32.isValidChar, Nat.isValidChar] at hvalid
  have hcode : c.toNat = c.val.toNat := rfl
  omega

/-- A character is decoded from its bytes, whatever follows. -/
theorem decodeFrom_encodeChar (c : Char) (rest : List UInt8) :
    decodeFrom .between (encodeChar c ++ rest) = c :: decodeFrom .between rest := by
  have hvalid := toNat_valid c
  conv => rhs; rw [← Char.ofNat_toNat c]
  unfold encodeChar
  dsimp only
  split
  · exact decodeFrom_one rest (by omega)
  · split
    · exact decodeFrom_two rest (by omega) (by omega)
    · split
      · exact decodeFrom_three rest (by omega) (by omega) (by omega)
      · exact decodeFrom_four rest (by omega) (by omega)

/-- Decoding undoes encoding. -/
theorem decode_encode (cs : List Char) : decode (encode cs) = cs := by
  unfold decode encode
  induction cs with
  | nil => rfl
  | cons c rest ih => rw [List.flatMap_cons, decodeFrom_encodeChar, ih]

/-- A byte below 128 is the whole character. -/
theorem toNat_eq_of_mem_encodeChar {c : Char} {b : UInt8} (hb : b ∈ encodeChar c)
    (hascii : b.toNat < 0x80) : b.toNat = c.toNat := by
  have hvalid := toNat_valid c
  have hbeyond : ∀ k, 0x80 ≤ k → k < 256 → b ≠ k.toUInt8 := by
    rintro k hleast hmost rfl
    rw [toNat_toUInt8 hmost] at hascii
    omega
  unfold encodeChar at hb
  dsimp only at hb
  split at hb
  · rw [List.mem_singleton.mp hb, toNat_toUInt8 (by omega)]
  · -- All bytes of the longer forms are at least 128.
    exfalso
    split at hb
    · simp only [List.mem_cons, List.not_mem_nil, or_false] at hb
      rcases hb with hb | hb
      all_goals exact hbeyond _ (by omega) (by omega) hb
    · split at hb
      · simp only [List.mem_cons, List.not_mem_nil, or_false] at hb
        rcases hb with hb | hb | hb
        all_goals exact hbeyond _ (by omega) (by omega) hb
      · simp only [List.mem_cons, List.not_mem_nil, or_false] at hb
        rcases hb with hb | hb | hb | hb
        all_goals exact hbeyond _ (by omega) (by omega) hb

/-- The text holds the character of each byte below 128 of its encoding. -/
theorem exists_of_mem_encode {cs : List Char} {b : UInt8} (hb : b ∈ encode cs)
    (hascii : b.toNat < 0x80) : ∃ c ∈ cs, c.toNat = b.toNat := by
  obtain ⟨c, hc, hbc⟩ := List.mem_flatMap.mp hb
  exact ⟨c, hc, (toNat_eq_of_mem_encodeChar hbc hascii).symm⟩

/-- Texts are encoded one after the other. -/
theorem encode_append (cs ds : List Char) : encode (cs ++ ds) = encode cs ++ encode ds :=
  List.flatMap_append

end LabelTally.Text.Utf8
