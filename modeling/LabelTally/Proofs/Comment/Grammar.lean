import LabelTally.Proofs.Comment.Arguments

/-!
# The grammar of argument lists

An argument list is `(label)` or `(label, count)`, with at most one space after the comma that
belongs to neither argument. Bytes begin with at most one such list, so it does not matter how a
reader looks for it, and what is read is decided by its parts: a list without a label is malformed,
and a second argument is a count, no count, or a run of too many digits to be read.
-/

namespace LabelTally.Comment

open Decimal Text

/-- The bytes begin with an argument list, and the rest follows it. -/
inductive Lists : List UInt8 → ArgumentBytes → List UInt8 → Prop
  /-- A label between parentheses. -/
  | plain {label tail : List UInt8} (hlabel : ∀ b ∈ label, b ≠ comma ∧ b ≠ closeParen) :
    Lists (openParen :: label ++ closeParen :: tail) ⟨label, none⟩ tail
  /-- A label, a comma with a space after it if there is one, and a second argument. -/
  | counted {label raw tail : List UInt8} {spaced : Bool}
    (hlabel : ∀ b ∈ label, b ≠ comma ∧ b ≠ closeParen) (hraw : closeParen ∉ raw)
    (hspace : spaced = false → (raw ++ closeParen :: tail).head? ≠ some space) :
    Lists (openParen :: label ++ comma :: (if spaced then [space] else []) ++ raw ++
      closeParen :: tail) ⟨label, some ⟨spaced, raw⟩⟩ tail

/-- The first byte of a second argument is a space exactly if the byte after the comma is one. -/
theorem head?_append_closeParen (raw tail : List UInt8) :
    (raw ++ closeParen :: tail).head? = some space ↔ raw.head? = some space := by
  cases raw with
  | nil => simp [closeParen, space]
  | cons b rest => simp

/-- Bytes begin with an argument list exactly if its parts are separated and written there. -/
theorem lists_iff {bytes tail : List UInt8} {a : ArgumentBytes} :
    Lists bytes a tail ↔ a.WellFormed ∧ bytes = a.write ++ tail := by
  constructor
  · intro h
    cases h with
    | plain hlabel => exact ⟨⟨hlabel, by simp, by simp⟩, by simp [ArgumentBytes.write]⟩
    | counted hlabel hraw hspace =>
      rw [ne_eq, head?_append_closeParen] at hspace
      refine ⟨⟨hlabel, ?_, ?_⟩, by simp [ArgumentBytes.write, CountBytes.write]⟩
      · rintro c ⟨⟩
        exact hraw
      · rintro c ⟨⟩
        exact hspace
  · rintro ⟨hwf, rfl⟩
    obtain ⟨label, count⟩ := a
    cases count with
    | none => simpa [ArgumentBytes.write] using @Lists.plain label tail hwf.label
    | some c =>
      have hspace : c.spaced = false → (c.raw ++ closeParen :: tail).head? ≠ some space := by
        rw [ne_eq, head?_append_closeParen]
        exact hwf.space c rfl
      simpa [ArgumentBytes.write, CountBytes.write] using
        Lists.counted hwf.label (hwf.count c rfl) hspace

/-- The list that bytes begin with is read. -/
theorem Lists.read_eq {bytes tail : List UInt8} {a : ArgumentBytes} (h : Lists bytes a tail) :
    ArgumentBytes.read bytes = some a := by
  obtain ⟨hwf, rfl⟩ := lists_iff.mp h
  exact ArgumentBytes.read_write hwf tail

/-- What is read is what the list means that bytes begin with. -/
theorem Lists.outcome_eq {bytes tail : List UInt8} {a : ArgumentBytes} (h : Lists bytes a tail)
    (start : Int) : Outcome.read bytes start = a.interpret start := by
  rw [Outcome.read, h.read_eq]

/-- Bytes begin with one argument list at most. -/
theorem Lists.unique {bytes tail tail' : List UInt8} {a a' : ArgumentBytes}
    (h : Lists bytes a tail) (h' : Lists bytes a' tail') : a' = a ∧ tail' = tail := by
  have hsame : some a' = some a := h'.read_eq.symm.trans h.read_eq
  obtain rfl : a' = a := Option.some.inj hsame
  have hbytes := (lists_iff.mp h).2
  rw [(lists_iff.mp h').2] at hbytes
  exact ⟨rfl, List.append_cancel_left hbytes⟩

/-- Where bytes do not begin with an argument list, none is read. -/
theorem read_eq_none_of_not_lists {bytes : List UInt8} (h : ∀ a tail, ¬Lists bytes a tail) :
    ArgumentBytes.read bytes = none := by
  cases hread : ArgumentBytes.read bytes with
  | none => rfl
  | some a =>
    obtain ⟨hwf, tail, hbytes⟩ := ArgumentBytes.read_eq_some hread
    exact absurd (lists_iff.mpr ⟨hwf, hbytes⟩) (h a tail)

/-- What stands at a position of a line is what its bytes from there on begin with. -/
theorem Outcome.readAt_natCast {line : List UInt8} {pos : Nat} (hpos : pos ≤ line.length)
    (offset : Int) :
    Outcome.readAt line pos offset = Outcome.read (line.drop pos) (offset + pos) := by
  have hplace : min (max (pos : Int) 0) line.length = pos := by omega
  rw [Outcome.readAt, hplace, Int.toNat_natCast]
  cases Outcome.read (line.drop pos) (offset + pos) with
  | error e => rfl
  | ok o =>
    cases o with
    | valid args =>
      have hlength : args.length + ((pos : Int) - pos) = args.length := by omega
      show Except.ok (Outcome.valid { args with length := args.length + ((pos : Int) - pos) }) = _
      rw [hlength]
    | malformed => rfl
    | invalidCount span => rfl

/-- The label is blank exactly if nothing is left of its text without blanks. -/
theorem isBlank_eq_false_iff {a : ArgumentBytes} :
    a.isBlank = false ↔ trim (Utf8.decode a.label) ≠ [] := by
  rw [ArgumentBytes.isBlank, List.isEmpty_eq_false_iff]

section Interpret

variable {label : List UInt8} (hlabel : trim (Utf8.decode label) ≠ []) (start : Int)

omit hlabel in
/-- Without a label an argument list is malformed, whatever its second argument is. -/
theorem interpret_of_blank (hblank : trim (Utf8.decode label) = []) (count : Option CountBytes) :
    (ArgumentBytes.mk label count).interpret start = .ok .malformed :=
  ArgumentBytes.Means.interpret_eq (.blank (by rw [ArgumentBytes.isBlank, hblank]; rfl))

include hlabel

/-- With a label, a second argument is no count, too long to be read, too large, or a count. -/
theorem interpret_counted (c : CountBytes) :
    (ArgumentBytes.mk label (some c)).interpret start =
      if isDigitRun (trim (Utf8.decode c.raw)) = false then
        .ok (.invalidCount ((ArgumentBytes.mk label (some c)).countSpan c start))
      else if digitLimit < (trim (Utf8.decode c.raw)).length then
        .error ⟨(trim (Utf8.decode c.raw)).length⟩
      else if maxCount < digitsValue (trim (Utf8.decode c.raw)) then
        .ok (.invalidCount ((ArgumentBytes.mk label (some c)).countSpan c start))
      else .ok (.valid ⟨(ArgumentBytes.mk label (some c)).labelArg start,
        some ⟨digitsValue (trim (Utf8.decode c.raw)), String.ofList (Utf8.decode c.raw),
          (ArgumentBytes.mk label (some c)).countSpan c start⟩,
        (ArgumentBytes.mk label (some c)).size⟩) := by
  have hfull : (ArgumentBytes.mk label (some c)).isBlank = false := isBlank_eq_false_iff.mpr hlabel
  have hread := readCount_eq (trim (Utf8.decode c.raw))
  split
  · rename_i hno
    rw [if_pos hno] at hread
    exact (ArgumentBytes.Means.refused c hfull rfl hread).interpret_eq
  · rename_i hrun
    rw [if_neg hrun] at hread
    split
    · rename_i hlong
      rw [if_pos hlong] at hread
      exact ArgumentBytes.interpret_eq_error hfull rfl hread start
    · rename_i hshort
      rw [if_neg hshort] at hread
      split
      · rename_i hlarge
        rw [if_pos hlarge] at hread
        exact (ArgumentBytes.Means.refused c hfull rfl hread).interpret_eq
      · rename_i hfits
        rw [if_neg hfits] at hread
        exact (ArgumentBytes.Means.counted c _ hfull rfl hread).interpret_eq

end Interpret

/-- At every position of a line an argument list is read exactly if the bytes from there on begin
with one, and there is only one that they can begin with. Its parts decide what is read: it is
malformed without a label, has a bad count where the second argument is no run of ASCII digits or
denotes more than 65535, cannot be read where that is a run of more than 4300 digits, and is valid
otherwise, with the texts, values and spans of its parts. -/
theorem readAt_grammar (line : List UInt8) (pos : Nat) (hpos : pos ≤ line.length) (offset : Int) :
    (∀ a tail, Lists (line.drop pos) a tail →
      ∀ a' tail', Lists (line.drop pos) a' tail' → a' = a ∧ tail' = tail) ∧
    (∀ label tail, Lists (line.drop pos) ⟨label, none⟩ tail →
      ∀ start text, start = offset + pos → text = Utf8.decode label →
      Outcome.readAt line pos offset =
        if trim text = [] then .ok .malformed
        else .ok (.valid {
          label := ⟨String.ofList (trim text), String.ofList text, start + 1,
            start + 1 + label.length⟩
          count := none
          length := (line.drop pos).length - tail.length })) ∧
    (∀ label spaced raw tail, Lists (line.drop pos) ⟨label, some ⟨spaced, raw⟩⟩ tail →
      ∀ start text countText countStart, start = offset + pos → text = Utf8.decode label →
      countText = Utf8.decode raw →
      countStart = start + 1 + label.length + 1 + (if spaced then 1 else 0) →
      Outcome.readAt line pos offset =
        if trim text = [] then .ok .malformed
        else if isDigitRun (trim countText) = false then
          .ok (.invalidCount ⟨countStart, countStart + raw.length⟩)
        else if 4300 < (trim countText).length then .error ⟨(trim countText).length⟩
        else if 65535 < digitsValue (trim countText) then
          .ok (.invalidCount ⟨countStart, countStart + raw.length⟩)
        else .ok (.valid {
          label := ⟨String.ofList (trim text), String.ofList text, start + 1,
            start + 1 + label.length⟩
          count := some ⟨digitsValue (trim countText), String.ofList countText, countStart,
            countStart + raw.length⟩
          length := (line.drop pos).length - tail.length })) ∧
    ((∀ a tail, ¬Lists (line.drop pos) a tail) →
      Outcome.readAt line pos offset = .ok .malformed) := by
  rw [Outcome.readAt_natCast hpos]
  have hlength : ∀ a tail, Lists (line.drop pos) a tail →
      ((line.drop pos).length : Int) - tail.length = a.size := by
    intro a tail h
    rw [(lists_iff.mp h).2, List.length_append, a.length_write]
    omega
  refine ⟨fun a tail h a' tail' h' => h.unique h', ?_, ?_, fun hnone => ?_⟩
  · rintro label tail h start text rfl rfl
    rw [h.outcome_eq, hlength _ _ h]
    split
    · rename_i hblank
      exact interpret_of_blank _ hblank none
    · rename_i hlabel
      exact (ArgumentBytes.Means.plain (isBlank_eq_false_iff.mpr hlabel) rfl).interpret_eq
  · rintro label spaced raw tail h start text countText countStart rfl rfl rfl rfl
    rw [h.outcome_eq, hlength _ _ h]
    split
    · rename_i hblank
      exact interpret_of_blank _ hblank _
    · rename_i hlabel
      exact interpret_counted hlabel _ _
  · rw [Outcome.read, read_eq_none_of_not_lists hnone]

/-- A label of a blank and a byte that starts no character, and a count behind two blanks, of which
only the first belongs to no argument: `( ÿ, \t7)` at position 1 of a line at offset 100. -/
theorem readAt_grammar_replaced_label :
    1 ≤ [120, 40, 32, 255, 44, 32, 9, 55, 41, 41].length ∧
      Lists ([120, 40, 32, 255, 44, 32, 9, 55, 41, 41].drop 1)
        ⟨[32, 255], some ⟨true, [9, 55]⟩⟩ [41] ∧
      Outcome.readAt [120, 40, 32, 255, 44, 32, 9, 55, 41, 41] (1 : Nat) 100 =
        .ok (.valid ⟨⟨"�", " �", 102, 104⟩, some ⟨7, "\t7", 106, 108⟩, 8⟩) := by
  have hlists : Lists ([120, 40, 32, 255, 44, 32, 9, 55, 41, 41].drop 1)
      ⟨[32, 255], some ⟨true, [9, 55]⟩⟩ [41] :=
    @Lists.counted [32, 255] [9, 55] [41] true (by simp [comma, closeParen]) (by decide) (by simp)
  refine ⟨by decide, hlists, ?_⟩
  have hread := (readAt_grammar [120, 40, 32, 255, 44, 32, 9, 55, 41, 41] 1 (by decide) 100).2.2.1
    [32, 255] true [9, 55] [41] hlists _ _ _ _ rfl rfl rfl rfl
  rw [hread]
  cbv

end LabelTally.Comment
