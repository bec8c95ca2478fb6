import LabelTally.Proofs.Text.Utf8

/-!
# Decoding in parts

A byte below 128 is part of no longer form, so a character that is open before it ends there, and
none is open behind it. Bytes can therefore be cut beside such a byte and decoded in parts, also
where the bytes at the cut are invalid. Text in ASCII comes from bytes below 128 only.
-/

namespace LabelTally.Text.Utf8

/-- No open character takes a byte below 128. -/
theorem Progress.IsSound.not_accepts {bits missing : Nat} {least most b : UInt8}
    (h : (Progress.inside bits missing least most).IsSound) (hb : b < 0x80) : ¬least ≤ b := by
  have hleast : 0x80 ≤ least.toNat := h.2.2.1
  rw [UInt8.lt_iff_toNat_lt] at hb
  rw [UInt8.le_iff_toNat_le]
  simp only [UInt8.reduceToNat] at hb
  omega

/-- A byte below 128 stands for itself. -/
theorem start_of_ascii {b : UInt8} (hb : b < 0x80) : start b = .done (Char.ofNat b.toNat) := by
  rw [start, if_pos hb]

/-- What a sound move leads to is decoded up to a byte below 128 and from there on. -/
theorem follow_append_ascii {b : UInt8} {rest bytes : List UInt8}
    (ih : ∀ p : Progress, p.IsSound →
      decodeFrom p (bytes ++ b :: rest) = decodeFrom p bytes ++ decodeFrom .between (b :: rest))
    {b' : UInt8} {m : Move} (hm : m.IsSound b') :
    follow m (bytes ++ b :: rest) = follow m bytes ++ decodeFrom .between (b :: rest) := by
  cases m with
  | done c => rw [follow, follow, ih .between trivial, List.cons_append]
  | opened p => exact ih p hm
  | badStart => rw [follow, follow, ih .between trivial, List.cons_append]

/-- From a sound progress on, bytes are decoded up to a byte below 128 and from there on. -/
theorem decodeFrom_append_ascii {b : UInt8} (hb : b < 0x80) (rest bytes : List UInt8)
    (p : Progress) (hp : p.IsSound) :
    decodeFrom p (bytes ++ b :: rest) = decodeFrom p bytes ++ decodeFrom .between (b :: rest) := by
  induction bytes generalizing p with
  | nil =>
    cases p with
    | between => rfl
    | inside bits missing least most =>
      -- The open character is given up here, as it is at the end of the bytes.
      rw [List.nil_append, decodeFrom_inside_cons, if_neg fun h => hp.not_accepts hb h.1,
        decodeFrom_between_cons]
      rfl
  | cons b' bytes ih =>
    rw [List.cons_append]
    cases p with
    | between =>
      rw [decodeFrom_between_cons, decodeFrom_between_cons,
        follow_append_ascii ih (start_isSound b')]
    | inside bits missing least most =>
      rw [decodeFrom_inside_cons, decodeFrom_inside_cons]
      split
      · rename_i hbounds
        exact follow_append_ascii ih (resume_isSound hp hbounds.1 hbounds.2)
      · rw [follow_append_ascii ih (start_isSound b'), List.cons_append]

/-- Two stretches of bytes meet beside a byte below 128, or one of them is empty. -/
def IsSeam (left right : List UInt8) : Prop :=
  (∀ b ∈ left.getLast?, b < 0x80) ∨ ∀ b ∈ right.head?, b < 0x80

/-- A byte below 128 is decoded alone. -/
theorem decode_cons_of_ascii {b : UInt8} (hb : b < 0x80) (rest : List UInt8) :
    decode (b :: rest) = Char.ofNat b.toNat :: decode rest := by
  rw [decode, decodeFrom_between_cons, start_of_ascii hb]
  rfl

/-- Stretches that meet beside a byte below 128 are decoded one after the other. -/
theorem decode_append {left right : List UInt8} (h : IsSeam left right) :
    decode (left ++ right) = decode left ++ decode right := by
  rcases h with hleft | hright
  · rcases List.eq_nil_or_concat left with rfl | ⟨before, b, rfl⟩
    · rfl
    · have hb : b < 0x80 := hleft b (by simp)
      have hlast : decode (before ++ [b]) = decode before ++ [Char.ofNat b.toNat] := by
        rw [decode, decodeFrom_append_ascii hb [] before .between trivial]
        exact congrArg _ (decode_cons_of_ascii hb [])
      rw [List.concat_eq_append, List.append_assoc, hlast, List.append_assoc]
      exact (decodeFrom_append_ascii hb right before .between trivial).trans
        (congrArg _ (decode_cons_of_ascii hb right))
  · cases right with
    | nil =>
      rw [List.append_nil]
      exact (List.append_nil _).symm
    | cons b rest => exact decodeFrom_append_ascii (hright b rfl) rest left .between trivial

/-- A byte below 128 is decoded as its character, whatever stands around it. -/
theorem mem_decode_of_ascii {bytes : List UInt8} {b : UInt8} (hmem : b ∈ bytes) (hb : b < 0x80) :
    Char.ofNat b.toNat ∈ decode bytes := by
  obtain ⟨left, right, rfl⟩ := List.append_of_mem hmem
  have hseam : IsSeam left (b :: right) := Or.inr (by simpa using hb)
  rw [decode_append hseam, decode_cons_of_ascii hb]
  simp

/-- An open character, complete or not, gives a character beyond ASCII. -/
theorem exists_not_ascii_of_inside (bytes : List UInt8) {bits missing : Nat} {least most : UInt8}
    (h : (Progress.inside bits missing least most).IsSound) :
    ∃ c ∈ decodeFrom (.inside bits missing least most) bytes, 0x80 ≤ c.toNat := by
  have hreplaced : 0x80 ≤ replacement.toNat := by decide
  induction bytes generalizing bits missing least most with
  | nil => exact ⟨replacement, List.mem_singleton_self _, hreplaced⟩
  | cons b rest ih =>
    rw [decodeFrom_inside_cons]
    split
    · rename_i hbounds
      have hmove := resume_isSound h hbounds.1 hbounds.2
      by_cases hlast : missing ≤ 1
      · rw [resume, if_pos hlast] at hmove ⊢
        have hb : 0x80 ≤ b.toNat := h.2.2.1.trans (UInt8.le_iff_toNat_le.mp hbounds.1)
        refine ⟨_, List.mem_cons_self, ?_⟩
        rcases hmove with hself | hbeyond
        · rw [hself]
          exact hb
        · exact hbeyond
      · rw [resume, if_neg hlast] at hmove ⊢
        exact ih hmove
    · exact ⟨replacement, List.mem_cons_self, hreplaced⟩

/-- Text in ASCII comes from bytes below 128. -/
theorem ascii_of_decode {bytes : List UInt8} (h : ∀ c ∈ decode bytes, c.toNat < 0x80) :
    ∀ b ∈ bytes, b < 0x80 := by
  induction bytes with
  | nil => simp
  | cons b rest ih =>
    by_cases hb : b < 0x80
    · rw [decode_cons_of_ascii hb] at h
      have hrest := ih fun c hc => h c (List.mem_cons_of_mem _ hc)
      intro b' hb'
      rcases List.mem_cons.mp hb' with rfl | hb'
      · exact hb
      · exact hrest b' hb'
    · exfalso
      rw [decode, decodeFrom_between_cons] at h
      have hsound := start_isSound b
      have hopened : ∀ p, start b = .opened p → ∃ bits missing least most,
          p = .inside bits missing least most := by
        intro p hp
        unfold start at hp
        split_ifs at hp <;> cases hp <;> exact ⟨_, _, _, _, rfl⟩
      cases hstart : start b with
      | done c =>
        unfold start at hstart
        split_ifs at hstart
      | opened p =>
        obtain ⟨bits, missing, least, most, rfl⟩ := hopened p hstart
        rw [hstart] at h hsound
        obtain ⟨c, hc, hbeyond⟩ := exists_not_ascii_of_inside rest hsound
        have hascii := h c hc
        omega
      | badStart =>
        rw [hstart] at h
        exact absurd (h replacement List.mem_cons_self) (by decide)

end LabelTally.Text.Utf8
