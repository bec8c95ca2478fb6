import LabelTally.Report.Locate
import LabelTally.Proofs.Text.Seams
import LabelTally.Proofs.Text.Terminators

/-!
# Where a part of a file stands

A part of a file within one line is located by what stands before and behind it in the line. If the
part meets its neighbours beside bytes below 128, the line is decoded in three parts, and the column
and the width are those of the part in the decoded line. Carriage returns are dropped from the end
of the line only behind the part.
-/

namespace LabelTally.Report

open Text

/-- The bytes behind the last line feed. -/
def openLine (before : List UInt8) : List UInt8 := before.rtakeWhile (· != lineFeed)

/-- The bytes before the first line feed. -/
def restOfLine (after : List UInt8) : List UInt8 := after.takeWhile (· != lineFeed)

/-- No line feed stands behind the last one. -/
theorem lineFeed_notMem_openLine (before : List UInt8) : lineFeed ∉ openLine before := fun h => by
  simpa using List.mem_rtakeWhile_imp h

/-- No line feed stands before the first one. -/
theorem lineFeed_notMem_restOfLine (after : List UInt8) : lineFeed ∉ restOfLine after := fun h => by
  simpa using List.mem_takeWhile_imp h

/-- What stands before a position ends with the open line, behind a line feed if behind anything. -/
theorem exists_append_openLine (before : List UInt8) :
    ∃ earlier, before = earlier ++ openLine before ∧
      (earlier = [] ∨ earlier.getLast? = some lineFeed) := by
  refine ⟨before.rdropWhile (· != lineFeed), List.rdropWhile_append_rtakeWhile.symm, ?_⟩
  by_cases hnone : before.rdropWhile (· != lineFeed) = []
  · exact Or.inl hnone
  · right
    have hlast := List.rdropWhile_last_not (· != lineFeed) before hnone
    rw [List.getLast?_eq_some_getLast hnone]
    simpa using hlast

/-- What stands behind a position begins with the rest of its line, before a line feed if before
anything. -/
theorem exists_restOfLine_append (after : List UInt8) :
    ∃ later, after = restOfLine after ++ later ∧ (later = [] ∨ later.head? = some lineFeed) := by
  refine ⟨after.dropWhile (· != lineFeed), List.takeWhile_append_dropWhile.symm, ?_⟩
  cases hrest : after.dropWhile (· != lineFeed) with
  | nil => exact Or.inl rfl
  | cons b rest =>
    right
    have hhead := List.head?_dropWhile_not (· != lineFeed) after
    rw [hrest] at hhead
    simpa using hhead

/-- The rest of a line goes on behind bytes without line feed. -/
theorem restOfLine_append {left right : List UInt8} (hfree : lineFeed ∉ left) :
    restOfLine (left ++ right) = left ++ restOfLine right := by
  refine List.takeWhile_append_of_pos fun b hb => ?_
  rw [bne_iff_ne]
  rintro rfl
  exact hfree hb

/-- The part of a file between two others. -/
theorem slice_append (before part after : List UInt8) :
    slice (before ++ part ++ after) before.length (before.length + part.length) = part := by
  rw [slice, ← List.length_append, List.take_left, List.drop_left]

/-- A position within a file is not moved. -/
theorem clip_natCast {size position : Nat} (h : position ≤ size) :
    clip size position = position := by
  rw [clip, if_neg (by omega), Int.toNat_natCast, Nat.min_eq_left h]

/-- The line of a position begins where the open line does. -/
theorem lineStart_append (before rest : List UInt8) :
    lineStart (before ++ rest) before.length = before.length - (openLine before).length := by
  rw [lineStart, List.take_left, openLine, List.rtakeWhile, List.length_reverse]

/-- The line of a position ends with the rest of the line. -/
theorem lineEnd_append (before rest : List UInt8) :
    lineEnd (before ++ rest) before.length = before.length + (restOfLine rest).length := by
  rw [lineEnd, List.drop_left, restOfLine]

/-- Where a part of a file stands that has no line feed. -/
theorem locate_append (before part after : List UInt8) (hfree : lineFeed ∉ part) :
    locate (before ++ part ++ after) ⟨before.length, before.length + part.length⟩ =
      { line := before.count lineFeed + 1,
        column := (Utf8.decode (openLine before)).length + 1,
        text := dropReturns (Utf8.decode (openLine before ++ part ++ restOfLine after)),
        width := max (Utf8.decode part).length 1 } := by
  obtain ⟨earlier, hbefore, _⟩ := exists_append_openLine before
  obtain ⟨later, hafter, _⟩ := exists_restOfLine_append after
  have hwhole : before ++ part ++ after =
      earlier ++ (openLine before ++ part ++ restOfLine after) ++ later := by
    calc before ++ part ++ after
        = earlier ++ openLine before ++ part ++ (restOfLine after ++ later) := by
          rw [← hbefore, ← hafter]
      _ = earlier ++ (openLine before ++ part ++ restOfLine after) ++ later := by
          simp only [List.append_assoc]
  have hsize := congrArg List.length hbefore
  rw [List.length_append] at hsize
  have hlength : (before ++ part ++ after).length = before.length + part.length + after.length := by
    rw [List.length_append, List.length_append]
  -- The start is kept, and the stop is kept too, since the line goes on to the end of the part.
  have hfirst : min (before.length : Int) ((before ++ part ++ after).length : Int) =
      (before.length : Nat) := by omega
  have hlast : min (max ((before.length : Int) + part.length) (before.length : Nat))
      ((before.length + (part ++ restOfLine after).length : Nat) : Int) =
        (before.length + part.length : Nat) := by
    rw [List.length_append]
    omega
  have hopen : slice (before ++ part ++ after) earlier.length before.length = openLine before := by
    have hslice := slice_append earlier (openLine before) (part ++ after)
    rwa [← hbefore, ← hsize, ← List.append_assoc] at hslice
  have hline : slice (before ++ part ++ after) earlier.length
      (before.length + (part ++ restOfLine after).length) =
        openLine before ++ part ++ restOfLine after := by
    have hstop : before.length + (part ++ restOfLine after).length =
        earlier.length + (openLine before ++ part ++ restOfLine after).length := by
      simp only [List.length_append]
      omega
    rw [hwhole, hstop, slice_append]
  rw [locate]
  dsimp only
  rw [hfirst, clip_natCast (by omega), List.append_assoc before, lineStart_append, lineEnd_append,
    ← List.append_assoc before, show before.length - (openLine before).length = earlier.length by
      omega, restOfLine_append hfree, hlast, clip_natCast (by omega), hline, hopen, slice_append,
    List.append_assoc before, List.take_left]

/-- Carriage returns are dropped from the right. -/
theorem dropReturns_eq (cs : List Char) : dropReturns cs = cs.rdropWhile (· == '\r') := rfl

/-- Carriage returns are dropped behind the last other character only. -/
theorem dropReturns_append_cons (left : List Char) {c : Char} (hc : c ≠ '\r') (right : List Char) :
    dropReturns (left ++ c :: right) = left ++ c :: dropReturns right := by
  induction right using List.reverseRecOn with
  | nil => exact List.rdropWhile_concat_neg _ left c (by simpa using hc)
  | append_singleton right d ih =>
    have hwhole : left ++ c :: (right ++ [d]) = left ++ c :: right ++ [d] := by simp
    have hdrop : ∀ cs : List Char, dropReturns (cs ++ [d]) =
        if d = '\r' then dropReturns cs else cs ++ [d] := by
      intro cs
      rw [dropReturns_eq, dropReturns_eq, List.rdropWhile_concat]
      simp only [beq_iff_eq]
    rw [hwhole, hdrop, hdrop, ih]
    split
    · rfl
    · simp

/-- What is dropped are carriage returns, and none is left at the end. -/
theorem exists_dropReturns_append (cs : List Char) :
    (∃ k, cs = dropReturns cs ++ List.replicate k '\r') ∧
      (dropReturns cs).getLast? ≠ some '\r' := by
  constructor
  · refine ⟨(cs.rtakeWhile (· == '\r')).length, ?_⟩
    have hreturns : cs.rtakeWhile (· == '\r') =
        List.replicate (cs.rtakeWhile (· == '\r')).length '\r' :=
      List.eq_replicate_iff.mpr ⟨rfl, fun c hc => by simpa using List.mem_rtakeWhile_imp hc⟩
    rw [← hreturns]
    exact List.rdropWhile_append_rtakeWhile.symm
  · intro hlast
    have hne : cs.rdropWhile (· == '\r') ≠ [] := by
      rintro hnil
      rw [dropReturns_eq, hnil] at hlast
      cases hlast
    rw [dropReturns_eq, List.getLast?_eq_some_getLast hne, Option.some.injEq] at hlast
    exact List.rdropWhile_last_not (· == '\r') cs hne (by rw [hlast]; rfl)

/-- A byte below 128 that does not end a line. -/
def IsPivot (b : UInt8) : Prop := b < 0x80 ∧ ¬IsTerminator b

instance : DecidablePred IsPivot := fun b =>
  inferInstanceAs (Decidable (b < 0x80 ∧ ¬IsTerminator b))

/-- A byte below 128 that is decoded as a carriage return is one. -/
theorem eq_carriageReturn_of_ofNat {b : UInt8} (hb : b < 0x80) (h : Char.ofNat b.toNat = '\r') :
    b = carriageReturn := by
  have hcode := congrArg Char.toNat h
  have hlt := UInt8.lt_iff_toNat_lt.mp hb
  simp only [UInt8.reduceToNat] at hlt
  rw [Utf8.toNat_ofNat_of_valid (by omega)] at hcode
  exact UInt8.toNat_inj.mp hcode

/-- The character of a pivot is no carriage return. -/
theorem IsPivot.ne_return {b : UInt8} (h : IsPivot b) : Char.ofNat b.toNat ≠ '\r' := fun heq =>
  h.2 (Or.inr (eq_carriageReturn_of_ofNat h.1 heq))

/-- The rest of a line goes on behind a pivot. -/
theorem IsPivot.restOfLine_cons {b : UInt8} (h : IsPivot b) (rest : List UInt8) :
    restOfLine (b :: rest) = b :: restOfLine rest := by
  have hfree : lineFeed ∉ [b] := fun hb =>
    h.2 (List.mem_singleton.mp hb ▸ isTerminator_lineFeed)
  exact restOfLine_append hfree

/-- A part of a file can be shown in its line: it lies in one line, decoding can be cut at its ends,
and beside its end a byte holds the end of the line away. -/
structure IsShown (before part after : List UInt8) : Prop where
  /-- The part has no line feed. -/
  free : lineFeed ∉ part
  /-- Decoding can be cut before the part. -/
  opens : Utf8.IsSeam before part
  /-- A byte below 128 that ends no line stands on one side of the end. -/
  closes : (∃ b ∈ part.getLast?, IsPivot b) ∨ ∃ b ∈ after.head?, IsPivot b

section Shown

variable {before part after : List UInt8} (h : IsShown before part after)
include h

/-- A byte below 128 stands on one side of the end of the part in its line. -/
theorem IsShown.pivot :
    (∃ b ∈ part.getLast?, IsPivot b) ∨ ∃ b ∈ (restOfLine after).head?, IsPivot b := by
  refine h.closes.imp_right ?_
  rintro ⟨b, hb, hpivot⟩
  cases after with
  | nil => cases hb
  | cons c after =>
    cases hb
    exact ⟨b, by rw [hpivot.restOfLine_cons]; rfl, hpivot⟩

/-- The line of the part is decoded in three parts. -/
theorem IsShown.decode_line :
    Utf8.decode (openLine before ++ part ++ restOfLine after) =
      Utf8.decode (openLine before) ++ Utf8.decode part ++ Utf8.decode (restOfLine after) := by
  obtain ⟨earlier, hbefore, _⟩ := exists_append_openLine before
  have hopens : Utf8.IsSeam (openLine before) part := by
    refine h.opens.imp_left fun hleft b hb => hleft b ?_
    rw [hbefore, List.getLast?_append, Option.mem_def.mp hb]
    rfl
  have hcloses : Utf8.IsSeam (openLine before ++ part) (restOfLine after) := by
    rcases h.pivot with ⟨b, hb, hpivot⟩ | ⟨b, hb, hpivot⟩
    · refine Or.inl fun c hc => ?_
      rw [List.getLast?_append, Option.mem_def.mp hb] at hc
      cases hc
      exact hpivot.1
    · refine Or.inr fun c hc => ?_
      cases hb.symm.trans hc
      exact hpivot.1
  rw [Utf8.decode_append hcloses, Utf8.decode_append hopens]

/-- Carriage returns at the end of the line are dropped behind the part only. -/
theorem IsShown.dropReturns_line :
    dropReturns (Utf8.decode (openLine before ++ part ++ restOfLine after)) =
      Utf8.decode (openLine before) ++ Utf8.decode part ++
        dropReturns (Utf8.decode (restOfLine after)) := by
  rw [h.decode_line]
  rcases h.pivot with ⟨b, hb, hpivot⟩ | ⟨b, hb, hpivot⟩
  · obtain ⟨inner, rfl⟩ := List.getLast?_eq_some_iff.mp hb
    have hlast : Utf8.decode (inner ++ [b]) = Utf8.decode inner ++ [Char.ofNat b.toNat] := by
      rw [Utf8.decode_append (Or.inr (by simpa using hpivot.1)), Utf8.decode_cons_of_ascii hpivot.1]
      rfl
    have hkept := dropReturns_append_cons (Utf8.decode (openLine before) ++ Utf8.decode inner)
      hpivot.ne_return (Utf8.decode (restOfLine after))
    rw [hlast]
    simpa only [List.append_assoc, List.cons_append, List.nil_append] using hkept
  · obtain ⟨rest, hrest⟩ := List.head?_eq_some_iff.mp hb
    have hfirst := Utf8.decode_cons_of_ascii hpivot.1 rest
    have hbehind := dropReturns_append_cons [] hpivot.ne_return (Utf8.decode rest)
    rw [List.nil_append, List.nil_append] at hbehind
    rw [hrest, hfirst, dropReturns_append_cons _ hpivot.ne_return, hbehind]

/-- Something of the line is left at the start of the part. -/
theorem IsShown.decode_ne_nil :
    Utf8.decode part ≠ [] ∨ dropReturns (Utf8.decode (restOfLine after)) ≠ [] := by
  rcases h.pivot with ⟨b, hb, hpivot⟩ | ⟨b, hb, hpivot⟩
  · left
    obtain ⟨inner, rfl⟩ := List.getLast?_eq_some_iff.mp hb
    rw [Utf8.decode_append (Or.inr (by simpa using hpivot.1)), Utf8.decode_cons_of_ascii hpivot.1]
    simp
  · right
    obtain ⟨rest, hrest⟩ := List.head?_eq_some_iff.mp hb
    have hbehind := dropReturns_append_cons [] hpivot.ne_return (Utf8.decode rest)
    rw [List.nil_append, List.nil_append] at hbehind
    rw [hrest, Utf8.decode_cons_of_ascii hpivot.1, hbehind]
    simp

/-- Where a part stands that can be shown. -/
theorem IsShown.locate_eq :
    locate (before ++ part ++ after) ⟨before.length, before.length + part.length⟩ =
      { line := before.count lineFeed + 1,
        column := (Utf8.decode (openLine before)).length + 1,
        text := Utf8.decode (openLine before) ++ Utf8.decode part ++
          dropReturns (Utf8.decode (restOfLine after)),
        width := max (Utf8.decode part).length 1 } := by
  rw [locate_append before part after h.free, h.dropReturns_line]

end Shown

end LabelTally.Report
