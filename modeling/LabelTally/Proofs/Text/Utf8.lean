import LabelTally.Text.Utf8
import Mathlib

/-!
# ASCII characters in decoded text

The bounds on the bytes of a character keep every longer form beyond ASCII and out of the
surrogates. So an ASCII character in decoded text comes from a byte of its own, also where other
bytes are invalid.
-/

namespace LabelTally.Text.Utf8

/-- All codes that the open character can still get are characters beyond ASCII. -/
def Progress.IsSound : Progress → Prop
  | .between => True
  | .inside bits missing least most =>
    1 ≤ missing ∧ missing ≤ 3 ∧ 0x80 ≤ least.toNat ∧
      0x80 ≤ (bits * 64 + (least.toNat - 0x80)) * 64 ^ (missing - 1) ∧
      (bits * 64 + (most.toNat - 0x80) + 1) * 64 ^ (missing - 1) ≤ 0x110000 ∧
      ((bits * 64 + (most.toNat - 0x80) + 1) * 64 ^ (missing - 1) ≤ 0xd800 ∨
        0xe000 ≤ (bits * 64 + (least.toNat - 0x80)) * 64 ^ (missing - 1))

/-- The byte completes itself or a character beyond ASCII, or opens a character soundly. -/
def Move.IsSound (b : UInt8) : Move → Prop
  | .done c => c.toNat = b.toNat ∨ 0x80 ≤ c.toNat
  | .opened p => p.IsSound
  | .badStart => True

/-- What a move does to the bytes that follow. -/
def follow (m : Move) (rest : List UInt8) : List Char :=
  match m with
  | .done c => c :: decodeFrom .between rest
  | .opened p => decodeFrom p rest
  | .badStart => replacement :: decodeFrom .between rest

/-- Between characters a byte starts one. -/
theorem decodeFrom_between_cons (b : UInt8) (rest : List UInt8) :
    decodeFrom .between (b :: rest) = follow (start b) rest := by
  rw [decodeFrom.eq_def]
  rfl

/-- Inside a character a byte goes on with it, or starts another after a replacement. -/
theorem decodeFrom_inside_cons (bits missing : Nat) (least most b : UInt8) (rest : List UInt8) :
    decodeFrom (.inside bits missing least most) (b :: rest) =
      if least ≤ b ∧ b ≤ most then follow (resume bits missing b) rest
      else replacement :: follow (start b) rest := by
  rw [decodeFrom.eq_def]
  simp only [Bool.and_eq_true, decide_eq_true_eq]
  rfl

/-- The code of a character that is not a surrogate. -/
theorem toNat_ofNat_of_valid {n : Nat} (h : n < 0xd800 ∨ 0xe000 ≤ n ∧ n < 0x110000) :
    (Char.ofNat n).toNat = n := by
  have hvalid : n.isValidChar := by
    simp only [Nat.isValidChar]
    omega
  rw [Char.ofNat, dif_pos hvalid]
  rfl

/-- A byte that starts a character does so soundly. -/
theorem start_isSound (b : UInt8) : (start b).IsSound b := by
  unfold start
  simp only [UInt8.lt_iff_toNat_lt, beq_iff_eq, ← UInt8.toNat_inj, UInt8.reduceToNat]
  split
  · left
    exact toNat_ofNat_of_valid (by omega)
  · split
    · trivial
    · split
      · simp only [Move.IsSound, Progress.IsSound, UInt8.reduceToNat, Nat.sub_self, Nat.pow_zero,
          Nat.mul_one, Nat.add_zero]
        omega
      · split
        · simp only [Move.IsSound, Progress.IsSound, Nat.reduceSub, Nat.reducePow]
          split <;> split <;> simp only [UInt8.reduceToNat] <;> omega
        · split
          · simp only [Move.IsSound, Progress.IsSound, Nat.reduceSub, Nat.reducePow]
            split <;> split <;> simp only [UInt8.reduceToNat] <;> omega
          · trivial

/-- A byte within the bounds goes on soundly. -/
theorem resume_isSound {bits missing : Nat} {least most b : UInt8}
    (h : (Progress.inside bits missing least most).IsSound) (hleast : least ≤ b)
    (hmost : b ≤ most) :
    (resume bits missing b).IsSound b := by
  obtain ⟨hone, hthree, hmin, hlow, hhigh, hgap⟩ := h
  rw [UInt8.le_iff_toNat_le] at hleast hmost
  unfold resume
  dsimp only
  by_cases hlast : missing ≤ 1
  · obtain rfl : missing = 1 := by omega
    simp only [Nat.sub_self, Nat.pow_zero, Nat.mul_one] at hlow hhigh hgap
    rw [if_pos hlast]
    right
    rw [toNat_ofNat_of_valid (by omega)]
    omega
  · rw [if_neg hlast]
    obtain rfl | rfl : missing = 2 ∨ missing = 3 := by omega
    · simp only [Nat.add_one_sub_one, Nat.reducePow] at hlow hhigh hgap
      simp only [Move.IsSound, Progress.IsSound, Nat.reduceSub, Nat.reducePow, UInt8.reduceToNat]
      omega
    · simp only [Nat.reduceSub, Nat.reducePow] at hlow hhigh hgap
      simp only [Move.IsSound, Progress.IsSound, Nat.reduceSub, Nat.reducePow, UInt8.reduceToNat]
      omega

/-- An ASCII character comes from the byte of a sound move or from a later one. -/
theorem exists_of_mem_follow {b : UInt8} {m : Move} {rest : List UInt8} {c : Char}
    (ih : ∀ p : Progress, p.IsSound → c ∈ decodeFrom p rest → ∃ b' ∈ rest, b'.toNat = c.toNat)
    (hm : m.IsSound b) (hc : c.toNat < 0x80) (h : c ∈ follow m rest) :
    ∃ b' ∈ b :: rest, b'.toNat = c.toNat := by
  have hlater : (∃ b' ∈ rest, b'.toNat = c.toNat) → ∃ b' ∈ b :: rest, b'.toNat = c.toNat := by
    rintro ⟨b', hb', he⟩
    exact ⟨b', List.mem_cons_of_mem _ hb', he⟩
  cases m with
  | done d =>
    rcases List.mem_cons.mp h with rfl | hrest
    · rcases hm with hself | hbeyond
      · exact ⟨b, List.mem_cons_self, hself.symm⟩
      · omega
    · exact hlater (ih .between trivial hrest)
  | opened p => exact hlater (ih p hm h)
  | badStart =>
    rcases List.mem_cons.mp h with rfl | hrest
    · exact absurd hc (by decide)
    · exact hlater (ih .between trivial hrest)

/-- From a sound progress on, an ASCII character comes from a byte of its own. -/
theorem exists_of_mem_decodeFrom {c : Char} (hc : c.toNat < 0x80) (bytes : List UInt8)
    (p : Progress) (hp : p.IsSound) (h : c ∈ decodeFrom p bytes) :
    ∃ b ∈ bytes, b.toNat = c.toNat := by
  have hreplaced : c ≠ replacement := by
    rintro rfl
    exact absurd hc (by decide)
  induction bytes generalizing p with
  | nil =>
    cases p with
    | between => simp [decodeFrom] at h
    | inside bits missing least most => exact absurd (List.mem_singleton.mp h) hreplaced
  | cons b rest ih =>
    cases p with
    | between =>
      rw [decodeFrom_between_cons] at h
      exact exists_of_mem_follow ih (start_isSound b) hc h
    | inside bits missing least most =>
      rw [decodeFrom_inside_cons] at h
      split at h
      · rename_i hbounds
        exact exists_of_mem_follow ih (resume_isSound hp hbounds.1 hbounds.2) hc h
      · rcases List.mem_cons.mp h with hrep | hrest
        · exact absurd hrep hreplaced
        · exact exists_of_mem_follow ih (start_isSound b) hc hrest

/-- An ASCII character of decoded text comes from a byte of its own. -/
theorem exists_of_mem_decode {bytes : List UInt8} {c : Char} (h : c ∈ decode bytes)
    (hc : c.toNat < 0x80) : ∃ b ∈ bytes, b.toNat = c.toNat :=
  exists_of_mem_decodeFrom hc bytes .between trivial h

/-- ASCII bytes are decoded one by one. -/
theorem decode_of_ascii {bytes : List UInt8} (h : ∀ b ∈ bytes, b < 0x80) :
    decode bytes = bytes.map fun b => Char.ofNat b.toNat := by
  unfold decode
  induction bytes with
  | nil => rfl
  | cons b rest ih =>
    have hb := h b List.mem_cons_self
    have hrest := ih fun b' hb' => h b' (List.mem_cons_of_mem _ hb')
    rw [decodeFrom_between_cons, start, if_pos hb, follow, hrest, List.map_cons]

end LabelTally.Text.Utf8
