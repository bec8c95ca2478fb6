import LabelTally.Comment.Arguments
import LabelTally.Proofs.Text.Utf8

/-!
# Reading argument lists

What is read at the start of some bytes is written there: the bytes begin with the argument list,
its label has neither comma nor closing parenthesis, and its count no closing parenthesis. What an
argument list means is said by cases, with the counts that fail among them.
-/

namespace LabelTally.Comment

open Decimal Text

/-- The parts of an argument list are those that reading separates. -/
structure ArgumentBytes.WellFormed (a : ArgumentBytes) : Prop where
  /-- The label ends before the first comma or closing parenthesis. -/
  label : ∀ b ∈ a.label, b ≠ comma ∧ b ≠ closeParen
  /-- The count ends before the first closing parenthesis. -/
  count : ∀ c, a.count = some c → closeParen ∉ c.raw
  /-- One space after the comma does not belong to the count. -/
  space : ∀ c, a.count = some c → c.spaced = false → c.raw.head? ≠ some space

/-- A second argument with its comma has as many bytes as its size says. -/
theorem CountBytes.length_write (c : CountBytes) : c.write.length = c.size := by
  simp only [write, size, List.cons_append, List.length_cons, List.length_append]
  split <;> simp only [List.length_cons, List.length_nil] <;> omega

/-- An argument list has as many bytes as its size says. -/
theorem ArgumentBytes.length_write (a : ArgumentBytes) : a.write.length = a.size := by
  cases hc : a.count with
  | none => simp only [write, size, hc, List.cons_append, List.append_nil, List.length_cons,
      List.length_append, List.length_nil]; omega
  | some c =>
    simp only [write, size, hc, List.cons_append, List.length_cons, List.length_append,
      c.length_write, List.length_nil]
    omega

/-- Where the bytes of a kind end, the first of another kind stands. -/
theorem eq_append_of_dropWhile {p : UInt8 → Bool} {bytes rest : List UInt8} {b : UInt8}
    (h : bytes.dropWhile p = b :: rest) :
    bytes = bytes.takeWhile p ++ b :: rest ∧ p b = false := by
  have hsplit := List.takeWhile_append_dropWhile (p := p) (l := bytes)
  have hstop := List.head?_dropWhile_not p bytes
  rw [h] at hsplit hstop
  exact ⟨hsplit.symm, hstop⟩

/-- A count that is read stands at the start of the bytes, with the closing parenthesis after it. -/
theorem CountBytes.read_eq_some {bytes : List UInt8} {c : CountBytes}
    (h : CountBytes.read bytes = some c) :
    closeParen ∉ c.raw ∧ (c.spaced = false → c.raw.head? ≠ some space) ∧
      ∃ tail, comma :: bytes = c.write ++ closeParen :: tail := by
  obtain ⟨spaced, body, hspaced, hbytes, hbody⟩ : ∃ spaced body,
      (bytes.head? == some space) = spaced ∧
      bytes = (if spaced then [space] else []) ++ body ∧
      (if spaced then bytes.drop 1 else bytes) = body := by
    cases bytes with
    | nil => exact ⟨false, [], rfl, rfl, rfl⟩
    | cons b rest =>
      by_cases hb : b = space
      · exact ⟨true, rest, by simp [hb], by simp [hb], by simp⟩
      · exact ⟨false, b :: rest, by simp [hb], by simp, by simp⟩
  simp only [CountBytes.read, hspaced, hbody] at h
  split at h
  · rename_i hclose
    have hfree : ∀ b ∈ body.takeWhile (· != closeParen), b ≠ closeParen := by
      intro b hb
      have hne := List.mem_takeWhile_imp hb
      simpa only [bne_iff_ne] using hne
    cases hrest : body.dropWhile (· != closeParen) with
    | nil =>
      have hnone := List.dropWhile_eq_nil_iff.mp hrest closeParen (List.contains_iff_mem.mp hclose)
      simp at hnone
    | cons b tail =>
      obtain ⟨hcut, hstop⟩ := eq_append_of_dropWhile hrest
      have hb : b = closeParen := by simpa using hstop
      rw [hb] at hcut
      cases h
      refine ⟨fun hmem => hfree closeParen hmem rfl, fun hplain hhead => ?_, tail, ?_⟩
      · have hplain : spaced = false := hplain
        simp only [hplain, Bool.false_eq_true, if_false, List.nil_append] at hbytes
        rw [hplain, hbytes, hcut] at hspaced
        have hfirst : (body.takeWhile (· != closeParen) ++ closeParen :: tail).head? =
            some space := by
          rw [List.head?_append, hhead]
          rfl
        rw [hfirst] at hspaced
        simp at hspaced
      · rw [hbytes]
        simp only [CountBytes.write, List.cons_append, List.append_assoc, ← hcut]
  · cases h

/-- An argument list that is read stands at the start of the bytes. -/
theorem ArgumentBytes.read_eq_some {bytes : List UInt8} {a : ArgumentBytes}
    (h : ArgumentBytes.read bytes = some a) :
    a.WellFormed ∧ ∃ tail, bytes = a.write ++ tail := by
  cases bytes with
  | nil => simp [ArgumentBytes.read] at h
  | cons b rest =>
    have hlabel : ∀ x ∈ rest.takeWhile inLabel, x ≠ comma ∧ x ≠ closeParen := by
      intro x hx
      have hin := List.mem_takeWhile_imp hx
      simpa [inLabel] using hin
    simp only [ArgumentBytes.read] at h
    split at h
    · cases h
    · rename_i hopen
      have hb : b = openParen := by simpa using hopen
      split at h
      · cases h
      · rename_i b' after hafter
        obtain ⟨hcut, hstop⟩ := eq_append_of_dropWhile hafter
        split at h
        · rename_i hclose
          cases h
          refine ⟨⟨hlabel, by simp, by simp⟩, after, ?_⟩
          rw [beq_iff_eq.mp hclose] at hcut
          simp only [ArgumentBytes.write, List.append_nil, List.cons_append, List.append_assoc,
            List.nil_append, ← hcut, hb]
        · rename_i hclose
          have hcomma : b' = comma := by
            have hne : b' ≠ closeParen := by simpa using hclose
            simpa [inLabel, hne] using hstop
          obtain ⟨c, hc, ha⟩ := Option.map_eq_some_iff.mp h
          obtain ⟨hraw, hspace, tail, htail⟩ := CountBytes.read_eq_some hc
          subst ha
          refine ⟨⟨hlabel, ?_, ?_⟩, tail, ?_⟩
          · rintro c' ⟨⟩
            exact hraw
          · rintro c' ⟨⟩
            exact hspace
          · rw [hcomma, htail] at hcut
            simp only [ArgumentBytes.write, List.cons_append, List.append_assoc, List.nil_append,
              ← hcut, hb]

/-- What stops a reading is the first element of another kind. -/
theorem takeWhile_append_stop {p : UInt8 → Bool} {bytes : List UInt8} {b : UInt8}
    (hall : ∀ x ∈ bytes, p x = true) (hb : p b = false) (rest : List UInt8) :
    (bytes ++ b :: rest).takeWhile p = bytes ∧ (bytes ++ b :: rest).dropWhile p = b :: rest := by
  rw [List.takeWhile_append_of_pos hall, List.dropWhile_append_of_pos hall,
    List.takeWhile_cons_of_neg (by simp [hb]), List.dropWhile_cons_of_neg (by simp [hb]),
    List.append_nil]
  exact ⟨rfl, rfl⟩

/-- A second argument is read back. -/
theorem CountBytes.read_write {c : CountBytes} (hraw : closeParen ∉ c.raw)
    (hspace : c.spaced = false → c.raw.head? ≠ some space) (tail : List UInt8) :
    CountBytes.read ((if c.spaced then [space] else []) ++ c.raw ++ closeParen :: tail) =
      some c := by
  have hall : ∀ b ∈ c.raw, (b != closeParen) = true := by
    intro b hb
    rw [bne_iff_ne]
    rintro rfl
    exact hraw hb
  have hstop : (c.raw ++ closeParen :: tail).takeWhile (· != closeParen) = c.raw :=
    (takeWhile_append_stop hall (by decide) tail).1
  have hcloses : (c.raw ++ closeParen :: tail).contains closeParen = true := by simp
  obtain ⟨spaced, raw⟩ := c
  cases spaced with
  | true =>
    simp only [CountBytes.read, if_true, List.cons_append, List.nil_append, List.head?_cons,
      BEq.rfl, List.drop_succ_cons, List.drop_zero, hcloses, hstop]
  | false =>
    have hplain : ((raw ++ closeParen :: tail).head? == some space) = false := by
      cases raw with
      | nil => rfl
      | cons b rest => simpa using hspace rfl
    simp only [CountBytes.read, Bool.false_eq_true, if_false, List.nil_append, hplain, hcloses,
      if_true, hstop]

/-- An argument list is read back, whatever follows it. -/
theorem ArgumentBytes.read_write {a : ArgumentBytes} (h : a.WellFormed) (tail : List UInt8) :
    ArgumentBytes.read (a.write ++ tail) = some a := by
  have hall : ∀ b ∈ a.label, inLabel b = true := by
    intro b hb
    simpa [inLabel] using h.label b hb
  obtain ⟨label, count⟩ := a
  cases count with
  | none =>
    have hstop : inLabel closeParen = false := by decide
    obtain ⟨htake, hdrop⟩ := takeWhile_append_stop hall hstop tail
    simp only [ArgumentBytes.write, List.cons_append, List.append_nil, List.append_assoc,
      List.nil_append, ArgumentBytes.read, htake, hdrop]
    rfl
  | some c =>
    have hstop : inLabel comma = false := by decide
    obtain ⟨htake, hdrop⟩ := takeWhile_append_stop hall hstop
      ((if c.spaced then [space] else []) ++ c.raw ++ closeParen :: tail)
    have hcount := CountBytes.read_write (h.count c rfl) (h.space c rfl) tail
    simp only [List.append_assoc] at htake hdrop hcount
    simp only [ArgumentBytes.write, CountBytes.write, List.cons_append, List.append_assoc,
      List.nil_append, ArgumentBytes.read, htake, hdrop, hcount]
    rfl

/-- Reading a count asks three questions, the length before the value. -/
theorem readCount_eq (cs : List Char) :
    readCount cs =
      if isDigitRun cs = false then .ok none
      else if digitLimit < cs.length then .error ⟨cs.length⟩
      else if maxCount < digitsValue cs then .ok none
      else .ok (some (digitsValue cs)) := by
  unfold readCount readDigits
  cases isDigitRun cs with
  | false => rfl
  | true =>
    simp only [Bool.not_true, Bool.false_eq_true, Bool.true_eq_false, if_false, gt_iff_lt]
    split
    · rfl
    · simp only [Except.map]
      split <;> rfl

/-- A text is read as a count exactly if it is a short run of digits with a value in range. -/
theorem readCount_eq_some_iff {cs : List Char} {n : Nat} :
    readCount cs = .ok (some n) ↔
      isDigitRun cs = true ∧ cs.length ≤ digitLimit ∧ digitsValue cs = n ∧ n ≤ maxCount := by
  rw [readCount_eq]
  grind

/-- A text is refused as a count exactly if it is no run of digits, or a short one with too large a
value. -/
theorem readCount_eq_none_iff {cs : List Char} :
    readCount cs = .ok none ↔
      isDigitRun cs = false ∨ cs.length ≤ digitLimit ∧ maxCount < digitsValue cs := by
  rw [readCount_eq]
  grind

/-- Reading a count fails exactly on long runs of digits. -/
theorem readCount_eq_error_iff {cs : List Char} {e : TooManyDigits} :
    readCount cs = .error e ↔
      isDigitRun cs = true ∧ digitLimit < cs.length ∧ e = ⟨cs.length⟩ := by
  rw [readCount_eq]
  grind

/-- The label of an argument list has no text. -/
def ArgumentBytes.isBlank (a : ArgumentBytes) : Bool := (trim (Utf8.decode a.label)).isEmpty

/-- The label of an argument list whose opening parenthesis has the offset `start`. -/
def ArgumentBytes.labelArg (a : ArgumentBytes) (start : Int) : Arg String :=
  ⟨String.ofList (trim (Utf8.decode a.label)), String.ofList (Utf8.decode a.label),
    start + 1, start + 1 + a.label.length⟩

/-- The span of the second argument. -/
def ArgumentBytes.countSpan (a : ArgumentBytes) (c : CountBytes) (start : Int) : Span :=
  let first := start + 1 + a.label.length + 1 + (if c.spaced then 1 else 0)
  ⟨first, first + c.raw.length⟩

/-- What an argument list can mean, by cases. -/
inductive ArgumentBytes.Means (a : ArgumentBytes) (start : Int) : Outcome → Prop
  /-- There is no label. -/
  | blank (hblank : a.isBlank = true) : Means a start .malformed
  /-- There is only a label. -/
  | plain (hblank : a.isBlank = false) (hcount : a.count = none) :
    Means a start (.valid ⟨a.labelArg start, none, a.size⟩)
  /-- There are a label and a count. -/
  | counted (c : CountBytes) (n : Nat) (hblank : a.isBlank = false) (hcount : a.count = some c)
    (hread : readCount (trim (Utf8.decode c.raw)) = .ok (some n)) :
    Means a start (.valid ⟨a.labelArg start,
      some ⟨n, String.ofList (Utf8.decode c.raw), a.countSpan c start⟩, a.size⟩)
  /-- The second argument is no count. -/
  | refused (c : CountBytes) (hblank : a.isBlank = false) (hcount : a.count = some c)
    (hread : readCount (trim (Utf8.decode c.raw)) = .ok none) :
    Means a start (.invalidCount (a.countSpan c start))

/-- An argument list is interpreted as what it means, and not at all if its count is too long. -/
theorem ArgumentBytes.interpret_spec (a : ArgumentBytes) (start : Int) :
    (∃ o, a.interpret start = .ok o ∧ a.Means start o) ∨
      ∃ c e, a.isBlank = false ∧ a.count = some c ∧
        readCount (trim (Utf8.decode c.raw)) = .error e ∧ a.interpret start = .error e := by
  unfold ArgumentBytes.interpret
  by_cases hblank : a.isBlank = true
  · have hempty : (trim (Utf8.decode a.label)).isEmpty = true := hblank
    exact Or.inl ⟨.malformed, by simp only [hempty]; rfl, .blank hblank⟩
  · have hfull : a.isBlank = false := by simpa using hblank
    have hempty : (trim (Utf8.decode a.label)).isEmpty = false := hfull
    cases hcount : a.count with
    | none => exact Or.inl ⟨_, by simp only [hempty]; rfl, .plain hfull hcount⟩
    | some c =>
      cases hread : readCount (trim (Utf8.decode c.raw)) with
      | error e =>
        exact Or.inr ⟨c, e, hfull, rfl, hread, by simp only [hempty, hread]; rfl⟩
      | ok answer =>
        cases answer with
        | none => exact Or.inl ⟨_, by simp only [hempty, hread]; rfl, .refused c hfull hcount hread⟩
        | some n =>
          exact Or.inl ⟨_, by simp only [hempty, hread]; rfl, .counted c n hfull hcount hread⟩

/-- What an argument list means is what it is interpreted as. -/
theorem ArgumentBytes.Means.interpret_eq {a : ArgumentBytes} {start : Int} {o : Outcome}
    (h : a.Means start o) : a.interpret start = .ok o := by
  unfold ArgumentBytes.interpret
  cases h with
  | blank hblank =>
    have hempty : (trim (Utf8.decode a.label)).isEmpty = true := hblank
    simp only [hempty]
    rfl
  | plain hblank hcount =>
    have hempty : (trim (Utf8.decode a.label)).isEmpty = false := hblank
    simp only [hempty, hcount]
    rfl
  | counted c n hblank hcount hread =>
    have hempty : (trim (Utf8.decode a.label)).isEmpty = false := hblank
    simp only [hempty, hcount, hread]
    rfl
  | refused c hblank hcount hread =>
    have hempty : (trim (Utf8.decode a.label)).isEmpty = false := hblank
    simp only [hempty, hcount, hread]
    rfl

/-- An argument list with a label is not interpreted if its count is too long, wherever it
stands. -/
theorem ArgumentBytes.interpret_eq_error {a : ArgumentBytes} {c : CountBytes} {e : TooManyDigits}
    (hblank : a.isBlank = false) (hcount : a.count = some c)
    (hread : readCount (trim (Utf8.decode c.raw)) = .error e) (start : Int) :
    a.interpret start = .error e := by
  have hempty : (trim (Utf8.decode a.label)).isEmpty = false := hblank
  simp only [ArgumentBytes.interpret, hempty, hcount, hread]
  rfl

/-- Trimming keeps no character that was not there. -/
theorem mem_of_mem_trim {cs : List Char} {c : Char} (h : c ∈ trim cs) : c ∈ cs := by
  rw [trim, trimBy, List.mem_reverse] at h
  have hsub := (List.dropWhile_suffix isBlank).subset h
  rw [List.mem_reverse] at hsub
  exact (List.dropWhile_suffix isBlank).subset hsub

/-- A text without blanks is trimmed already. -/
theorem trim_of_free {cs : List Char} (h : ∀ c ∈ cs, isBlank c = false) : trim cs = cs := by
  have hkeep : ∀ ds : List Char, (∀ c ∈ ds, isBlank c = false) → ds.dropWhile isBlank = ds := by
    intro ds hds
    cases ds with
    | nil => rfl
    | cons c rest => rw [List.dropWhile_cons_of_neg (by simp [hds c List.mem_cons_self])]
  rw [trim, trimBy, hkeep cs h, hkeep _ (by simpa using h), List.reverse_reverse]

/-- Nothing is left of a text exactly if it is blank. -/
theorem trim_eq_nil_iff {cs : List Char} : trim cs = [] ↔ ∀ c ∈ cs, isBlank c = true := by
  rw [trim, trimBy, List.reverse_eq_nil_iff, List.dropWhile_eq_nil_iff]
  constructor
  · intro h
    cases hrest : cs.dropWhile isBlank with
    | nil => exact List.dropWhile_eq_nil_iff.mp hrest
    | cons c rest =>
      have hstop := List.head?_dropWhile_not isBlank cs
      rw [hrest] at h hstop
      have hc := h c (by simp)
      simp [hc] at hstop
  · intro h c hc
    rw [List.mem_reverse] at hc
    exact h c ((List.dropWhile_suffix isBlank).subset hc)

/-- A trimmed text is trimmed already. -/
theorem trim_trim (cs : List Char) : trim (trim cs) = trim cs := by
  have hstart : (trim cs).dropWhile isBlank = trim cs := by
    cases htrim : trim cs with
    | nil => rfl
    | cons c rest =>
      -- The first character that is left is the first one of the text that is not blank.
      have hprefix : trim cs <+: cs.dropWhile isBlank := List.rdropWhile_prefix isBlank _
      rw [htrim] at hprefix
      obtain ⟨more, hmore⟩ := hprefix
      have hstop := List.head?_dropWhile_not isBlank cs
      rw [← hmore] at hstop
      rw [List.dropWhile_cons_of_neg (by simpa using hstop)]
  have hend : ((trim cs).reverse.dropWhile isBlank).reverse = trim cs :=
    List.rdropWhile_idempotent isBlank _
  calc trim (trim cs)
      = (((trim cs).dropWhile isBlank).reverse.dropWhile isBlank).reverse := rfl
    _ = trim cs := by rw [hstart, hend]

/-- The label that is read has neither comma nor closing parenthesis, whatever its bytes are. -/
theorem ArgumentBytes.WellFormed.label_chars {a : ArgumentBytes} (h : a.WellFormed) {c : Char}
    (hc : c ∈ trim (Utf8.decode a.label)) : c ≠ ',' ∧ c ≠ ')' := by
  have hascii : ∀ b : UInt8, b ∉ a.label → b.toNat < 0x80 → c.toNat ≠ b.toNat := by
    intro b hb hlt he
    obtain ⟨b', hb', he'⟩ := Utf8.exists_of_mem_decode (mem_of_mem_trim hc) (by omega)
    rw [he, UInt8.toNat_inj] at he'
    exact hb (he' ▸ hb')
  constructor
  · rintro rfl
    exact hascii comma (fun hb => (h.label comma hb).1 rfl) (by decide) rfl
  · rintro rfl
    exact hascii closeParen (fun hb => (h.label closeParen hb).2 rfl) (by decide) rfl

/-- The number of bytes that an argument list with a label takes at the start of the bytes. -/
def argumentLength (bytes : List UInt8) : Nat :=
  match ArgumentBytes.read bytes with
  | some a => if a.isBlank then 0 else a.size
  | none => 0

/-- Without a label no argument list is taken. -/
theorem argumentLength_of_blank {bytes : List UInt8} {a : ArgumentBytes}
    (hread : ArgumentBytes.read bytes = some a) (hblank : a.isBlank = true) :
    argumentLength bytes = 0 := by
  simp only [argumentLength, hread, hblank, if_true]

/-- With a label all of it is. -/
theorem argumentLength_of_label {bytes : List UInt8} {a : ArgumentBytes}
    (hread : ArgumentBytes.read bytes = some a) (hblank : a.isBlank = false) :
    argumentLength bytes = a.size := by
  simp only [argumentLength, hread, hblank, Bool.false_eq_true, if_false]

/-- An argument list lies within the bytes that it is read from. -/
theorem argumentLength_le (bytes : List UInt8) : argumentLength bytes ≤ bytes.length := by
  unfold argumentLength
  split
  · rename_i a hread
    obtain ⟨_, tail, htail⟩ := ArgumentBytes.read_eq_some hread
    have hlen := congrArg List.length htail
    rw [List.length_append, a.length_write] at hlen
    split <;> omega
  · omega

/-- What is read at the start of some bytes: nothing, or what an argument list means. -/
theorem Outcome.read_eq_ok {bytes : List UInt8} {start : Int} {o : Outcome}
    (h : Outcome.read bytes start = .ok o) :
    (ArgumentBytes.read bytes = none ∧ o = .malformed) ∨
      ∃ a, ArgumentBytes.read bytes = some a ∧ a.Means start o := by
  unfold Outcome.read at h
  split at h
  · rename_i hread
    cases h
    exact Or.inl ⟨hread, rfl⟩
  · rename_i a hread
    refine Or.inr ⟨a, hread, ?_⟩
    rcases a.interpret_spec start with ⟨o', ho, hmeans⟩ | ⟨c, e, _, _, _, he⟩
    · rw [ho] at h
      cases h
      exact hmeans
    · rw [he] at h
      cases h

/-- The second argument at the start of some bytes is a run of digits too long to be read. -/
def HasOverlongCount (bytes : List UInt8) : Prop :=
  ∃ a c, ArgumentBytes.read bytes = some a ∧ a.isBlank = false ∧ a.count = some c ∧
    isDigitRun (trim (Utf8.decode c.raw)) = true ∧
    digitLimit < (trim (Utf8.decode c.raw)).length

/-- The byte is an ASCII digit. -/
def IsDigitByte (b : UInt8) : Prop := 48 ≤ b.toNat ∧ b.toNat ≤ 57

/-- An ASCII digit is decoded as a digit. -/
theorem IsDigitByte.isDigit {b : UInt8} (h : IsDigitByte b) :
    (Char.ofNat b.toNat).isDigit = true ∧ isBlank (Char.ofNat b.toNat) = false := by
  have hall : ∀ n < 58, 48 ≤ n →
      (Char.ofNat n).isDigit = true ∧ isBlank (Char.ofNat n) = false := by decide
  exact hall b.toNat (Nat.lt_succ_of_le h.2) h.1

/-- A written argument list whose count has too many digits has an overlong count. -/
theorem hasOverlongCount_of_written {a : ArgumentBytes} {c : CountBytes} (ha : a.WellFormed)
    (hblank : a.isBlank = false) (hcount : a.count = some c) (hdigits : ∀ b ∈ c.raw, IsDigitByte b)
    (hlong : digitLimit < c.raw.length) (tail : List UInt8) :
    HasOverlongCount (a.write ++ tail) := by
  have hdecode : Utf8.decode c.raw = c.raw.map fun b => Char.ofNat b.toNat :=
    Utf8.decode_of_ascii fun b hb => by
      have hle := (hdigits b hb).2
      rw [UInt8.lt_iff_toNat_lt]
      exact Nat.lt_of_le_of_lt hle (by decide)
  have htrim : trim (Utf8.decode c.raw) = c.raw.map fun b => Char.ofNat b.toNat := by
    rw [hdecode]
    refine trim_of_free fun d hd => ?_
    obtain ⟨b, hb, rfl⟩ := List.mem_map.mp hd
    exact (hdigits b hb).isDigit.2
  refine ⟨a, c, ArgumentBytes.read_write ha tail, hblank, hcount, ?_, ?_⟩
  · rw [htrim, isDigitRun, Bool.and_eq_true]
    constructor
    · cases hraw : c.raw with
      | nil => simp [hraw] at hlong
      | cons b rest => rfl
    · refine List.all_eq_true.mpr fun d hd => ?_
      obtain ⟨b, hb, rfl⟩ := List.mem_map.mp hd
      exact (hdigits b hb).isDigit.1
  · rwa [htrim, List.length_map]

/-- Reading fails exactly before a count that is too long. -/
theorem Outcome.read_eq_error_iff {bytes : List UInt8} {start : Int} :
    (∃ e, Outcome.read bytes start = .error e) ↔ HasOverlongCount bytes := by
  constructor
  · rintro ⟨e, h⟩
    unfold Outcome.read at h
    split at h
    · cases h
    · rename_i a hread
      rcases a.interpret_spec start with ⟨o, ho, _⟩ | ⟨c, e', hblank, hcount, he, _⟩
      · rw [ho] at h
        cases h
      · obtain ⟨hrun, hlong, _⟩ := readCount_eq_error_iff.mp he
        exact ⟨a, c, hread, hblank, hcount, hrun, hlong⟩
  · rintro ⟨a, c, hread, hblank, hcount, hrun, hlong⟩
    have he : readCount (trim (Utf8.decode c.raw)) = .error ⟨(trim (Utf8.decode c.raw)).length⟩ :=
      readCount_eq_error_iff.mpr ⟨hrun, hlong, rfl⟩
    unfold Outcome.read
    rw [hread]
    exact ⟨_, ArgumentBytes.interpret_eq_error hblank hcount he start⟩

/-- A second argument that is a run of digits with too large a value is refused as a count if the
run is not too long. Without a label nothing is said about it. -/
theorem Outcome.read_of_large_count {bytes : List UInt8} {a : ArgumentBytes} {c : CountBytes}
    (start : Int) (hread : ArgumentBytes.read bytes = some a) (hcount : a.count = some c)
    (hrun : isDigitRun (trim (Utf8.decode c.raw)) = true)
    (hlarge : maxCount < digitsValue (trim (Utf8.decode c.raw))) :
    Outcome.read bytes start =
      if a.isBlank = true then .ok .malformed
      else if (trim (Utf8.decode c.raw)).length ≤ digitLimit then
        .ok (.invalidCount (a.countSpan c start))
      else .error ⟨(trim (Utf8.decode c.raw)).length⟩ := by
  unfold Outcome.read
  rw [hread]
  simp only
  rcases a.interpret_spec start with ⟨o, ho, hmeans⟩ | ⟨c', e, hblank, hcount', he, hfails⟩
  · rw [ho]
    cases hmeans with
    | blank hblank => rw [if_pos hblank]
    | plain _ hnone => simp [hcount] at hnone
    | counted c' n _ hcount' hok =>
      rw [hcount] at hcount'
      cases hcount'
      obtain ⟨_, _, hvalue, hle⟩ := readCount_eq_some_iff.mp hok
      omega
    | refused c' hblank hcount' hok =>
      rw [hcount] at hcount'
      cases hcount'
      rw [if_neg (by simp [hblank])]
      rcases readCount_eq_none_iff.mp hok with hno | ⟨hshort, _⟩
      · simp [hrun] at hno
      · rw [if_pos hshort]
  · rw [hcount] at hcount'
    cases hcount'
    obtain ⟨_, hlong, rfl⟩ := readCount_eq_error_iff.mp he
    rw [hfails, if_neg (by simp [hblank]), if_neg (by omega)]

/-- What is no valid argument list is the same wherever the position is given. -/
theorem Outcome.readAt_eq_read {line : List UInt8} {pos offset : Int}
    (h : ∀ args, Outcome.read (line.drop (min (max pos 0) line.length).toNat)
      (offset + min (max pos 0) line.length) ≠ .ok (.valid args)) :
    Outcome.readAt line pos offset =
      Outcome.read (line.drop (min (max pos 0) line.length).toNat)
        (offset + min (max pos 0) line.length) := by
  unfold Outcome.readAt
  cases hread : Outcome.read (line.drop (min (max pos 0) line.length).toNat)
      (offset + min (max pos 0) line.length) with
  | error e => simp only [hread]; rfl
  | ok o =>
    simp only [hread]
    cases o with
    | valid args => exact absurd hread (h args)
    | malformed => rfl
    | invalidCount span => rfl

/-- The same for what stands at a position of a line. -/
theorem Outcome.readAt_of_large_count {line : List UInt8} {pos : Int} {a : ArgumentBytes}
    {c : CountBytes} (offset : Int)
    (hread : ArgumentBytes.read (line.drop (min (max pos 0) line.length).toNat) = some a)
    (hcount : a.count = some c) (hrun : isDigitRun (trim (Utf8.decode c.raw)) = true)
    (hlarge : maxCount < digitsValue (trim (Utf8.decode c.raw))) :
    Outcome.readAt line pos offset =
      if a.isBlank = true then .ok .malformed
      else if (trim (Utf8.decode c.raw)).length ≤ digitLimit then
        .ok (.invalidCount (a.countSpan c (offset + min (max pos 0) line.length)))
      else .error ⟨(trim (Utf8.decode c.raw)).length⟩ := by
  have hlocal := Outcome.read_of_large_count (offset + min (max pos 0) line.length) hread hcount
    hrun hlarge
  rw [Outcome.readAt_eq_read, hlocal]
  intro args
  rw [hlocal]
  split
  · simp
  · split <;> simp

end LabelTally.Comment
