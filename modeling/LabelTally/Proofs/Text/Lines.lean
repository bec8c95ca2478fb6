import LabelTally.Text.Lines
import Mathlib

/-!
# The lines of a file

The lines of a file concatenate to the file, and every line but the last ends with a terminator. A
sequence of bytes without terminators can therefore not stand across two lines.
-/

namespace LabelTally.Text

/-- The byte ends a line. -/
def IsTerminator (b : UInt8) : Prop := b = lineFeed ∨ b = carriageReturn

instance : DecidablePred IsTerminator := fun b =>
  inferInstanceAs (Decidable (b = lineFeed ∨ b = carriageReturn))

/-- Whether bytes have no terminator can be asked of one after the other. -/
theorem not_isTerminator_of_all {bytes : List UInt8}
    (h : (bytes.all fun b => !decide (IsTerminator b)) = true) :
    ∀ b ∈ bytes, ¬IsTerminator b := by
  intro b hb
  simpa using List.all_eq_true.mp h b hb

/-- The bytes end with a terminator. -/
def EndsLine (line : List UInt8) : Prop := ∃ body b, line = body ++ [b] ∧ IsTerminator b

/-- Cutting into lines loses no byte. -/
theorem flatten_linesFrom (current bytes : List UInt8) :
    (linesFrom current bytes).flatten = current.reverse ++ bytes := by
  fun_induction linesFrom current bytes with
  | case1 current hempty => simp [List.isEmpty_iff.mp hempty]
  | case2 current hopen => simp
  | case3 current b => simp
  | case4 current b b' rest hpair ih => simp [ih]
  | case5 current b b' rest hpair hend ih => simp [ih]
  | case6 current b b' rest hpair hend ih => simp [ih]

/-- The lines of a file concatenate to the file. -/
theorem flatten_lines (bytes : List UInt8) : (lines bytes).flatten = bytes := by
  rw [lines, flatten_linesFrom]
  rfl

/-- A line before the last is the first one or a line before the last of the others. -/
theorem mem_dropLast_cons {α : Type} {a x : α} {xs : List α} (h : x ∈ (a :: xs).dropLast) :
    x = a ∨ x ∈ xs.dropLast := by
  cases xs with
  | nil => simp at h
  | cons b xs => simpa using h

/-- Every line that is closed before the bytes end has its terminator. -/
theorem endsLine_linesFrom (current bytes : List UInt8) :
    ∀ line ∈ (linesFrom current bytes).dropLast, EndsLine line := by
  fun_induction linesFrom current bytes with
  | case1 current hempty => simp
  | case2 current hopen => simp
  | case3 current b => simp
  | case4 current b b' rest hpair ih =>
    intro line hline
    rcases mem_dropLast_cons hline with rfl | hlater
    · exact ⟨(b :: current).reverse, b', by simp, Or.inl hpair.2⟩
    · exact ih line hlater
  | case5 current b b' rest hpair hend ih =>
    intro line hline
    rcases mem_dropLast_cons hline with rfl | hlater
    · exact ⟨current.reverse, b, by simp, hend⟩
    · exact ih line hlater
  | case6 current b b' rest hpair hend ih => exact ih

/-- Every line of a file but the last ends with a terminator. -/
theorem endsLine_lines (bytes : List UInt8) : ∀ line ∈ (lines bytes).dropLast, EndsLine line :=
  endsLine_linesFrom [] bytes

/-- If all lines but the last end with a terminator, so does the first unless nothing follows it, and
all of the others but the last. -/
theorem endsLine_of_cons {line : List UInt8} {rest : List (List UInt8)}
    (h : ∀ l ∈ (line :: rest).dropLast, EndsLine l) :
    (EndsLine line ∨ rest.flatten = []) ∧ ∀ l ∈ rest.dropLast, EndsLine l := by
  cases rest with
  | nil => exact ⟨Or.inr rfl, by simp⟩
  | cons next rest =>
    obtain ⟨hline, hrest⟩ := List.forall_mem_cons.mp h
    exact ⟨Or.inl hline, hrest⟩

/-- Bytes without a terminator are one line. -/
theorem lines_of_free {bytes : List UInt8} (hne : bytes ≠ [])
    (hfree : ∀ b ∈ bytes, ¬IsTerminator b) : lines bytes = [bytes] := by
  have hflat := flatten_lines bytes
  have hends := endsLine_lines bytes
  generalize lines bytes = ls at hflat hends
  match ls with
  | [] => exact absurd hflat.symm hne
  | [line] => simpa using hflat
  | line :: next :: rest =>
    obtain ⟨body, b, hline, hb⟩ := hends line (by simp)
    refine absurd hb (hfree b ?_)
    rw [← hflat, hline]
    simp

end LabelTally.Text
