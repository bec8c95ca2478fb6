import LabelTally.Proofs.Comment.Coverage
import LabelTally.Proofs.Text.Terminators

/-!
# The lines with a marker

Before a file is cut into lines, the marker is looked for in the whole file. This drops no line,
since a marker in a line is one in the file. A marker without terminators stands in the file only
where it stands in a line; one with a terminator can stand in the file across two lines and in none
of them.
-/

namespace LabelTally.Comment

open Occurrence Text

variable {n : Needle UInt8} {data : List UInt8}

/-- The lines with their offsets are those that follow so many bytes. -/
theorem mem_withOffsets_iff {k : Nat} {ls : List (List UInt8)} {l : Nat × List UInt8} :
    l ∈ withOffsets k ls ↔
      ∃ earlier later, ls = earlier ++ l.2 :: later ∧ l.1 = k + earlier.flatten.length := by
  refine ⟨exists_append_of_mem_withOffsets, ?_⟩
  rintro ⟨earlier, later, rfl, hoffset⟩
  rw [withOffsets_append, withOffsets, ← hoffset]
  exact List.mem_append.mpr (Or.inr List.mem_cons_self)

/-- The offsets of lines that are not empty increase. -/
theorem pairwise_withOffsets {ls : List (List UInt8)} (hne : ∀ line ∈ ls, line ≠ []) (k : Nat) :
    (withOffsets k ls).Pairwise fun l l' => l.1 < l'.1 := by
  induction ls generalizing k with
  | nil => exact List.Pairwise.nil
  | cons line rest ih =>
    obtain ⟨hline, hrest⟩ := List.forall_mem_cons.mp hne
    refine List.pairwise_cons.mpr ⟨fun l hl => ?_, ih hrest _⟩
    obtain ⟨earlier, -, -, hoffset⟩ := exists_append_of_mem_withOffsets hl
    have hpos := List.length_pos_iff.mpr hline
    dsimp only
    omega

/-- What stands in lines without standing across the end of one stands in one of them. -/
theorem exists_line_of_occursAt (hfree : ∀ b ∈ n.items.toList, ¬IsTerminator b)
    {ls : List (List UInt8)} (hends : ∀ line ∈ ls.dropLast, EndsLine line) (k : Nat) {p : Nat}
    (h : OccursAt n.items.toList ls.flatten p) :
    ∃ l ∈ withOffsets k ls, ∃ q, OccursAt n.items.toList l.2 q ∧ k + p = l.1 + q := by
  induction ls generalizing k p with
  | nil =>
    have hle := n.add_length_le h
    have hn := n.nonempty
    simp only [List.flatten_nil, List.length_nil, Needle.length] at hle
    omega
  | cons line rest ih =>
    obtain ⟨hend, hrest⟩ := endsLine_of_cons hends
    rw [List.flatten_cons] at h
    rcases occursAt_line_or_behind hfree hend h with hline | hbehind
    · exact ⟨(k, line), List.mem_cons_self, p, hline, rfl⟩
    · rw [OccursAt, List.drop_append, List.drop_eq_nil_of_le hbehind, List.nil_append] at h
      obtain ⟨l, hl, q, hq, hplace⟩ := ih hrest (k + line.length) h
      exact ⟨l, List.mem_cons_of_mem _ hl, q, hq, by omega⟩

/-- A file without the marker has no line with it. -/
theorem find?_line_eq_none (hnone : n.find? data.toArray 0 = none) {line : List UInt8}
    (hline : line ∈ lines data) : n.find? line.toArray 0 = none := by
  obtain ⟨earlier, later, hsplit⟩ := List.append_of_mem hline
  have hl : (earlier.flatten.length, line) ∈ withOffsets 0 (lines data) :=
    mem_withOffsets_iff.mpr ⟨earlier, later, hsplit, (Nat.zero_add _).symm⟩
  have hfile := n.find?_isFirst data.toArray 0
  have hfirst := n.find?_isFirst line.toArray 0
  rw [hnone] at hfile
  cases hfind : n.find? line.toArray 0 with
  | none => rfl
  | some p =>
    rw [hfind] at hfirst
    exact absurd (occursAt_of_mem_withOffsets hl hfirst.2.1) (hfile _ (Nat.zero_le _))

/-- The lines of a file are cut behind line feeds, carriage returns, and both. Those with the marker
come in order, each with the number of bytes before it, and none is dropped because the marker is
looked for in the whole file first. A marker without terminators stands in the file exactly where it
stands in one of these lines. -/
theorem markerLines_exact (n : Needle UInt8) (data : List UInt8) :
    (∀ ls, AreLines data ls ↔ ls = lines data) ∧
    ((markerLines n data).map Prod.fst).Pairwise (· < ·) ∧
    (∀ offset line, (offset, line) ∈ markerLines n data ↔
      (∃ earlier later, lines data = earlier ++ line :: later ∧ offset = earlier.flatten.length) ∧
        ∃ q, OccursAt n.items.toList line q) ∧
    (∀ l ∈ markerLines n data, (data.drop l.1).take l.2.length = l.2) ∧
    (n.find? data.toArray 0 = none → ∀ line ∈ lines data, n.find? line.toArray 0 = none) ∧
    ((∀ b ∈ n.items.toList, ¬IsTerminator b) → ∀ p, OccursAt n.items.toList data p ↔
      ∃ l ∈ markerLines n data, ∃ q, OccursAt n.items.toList l.2 q ∧ p = l.1 + q) := by
  refine ⟨fun ls => areLines_iff, ?_, fun offset line => ?_, fun l hl => ?_,
    fun hnone line hline => find?_line_eq_none hnone hline, fun hfree p => ⟨fun h => ?_, ?_⟩⟩
  · rw [markerLines_eq_filter, List.pairwise_map]
    exact (pairwise_withOffsets (fun _ => ne_nil_of_mem_lines) 0).filter _
  · rw [mem_markerLines, mem_withOffsets_iff]
    simp only [Nat.zero_add]
  · obtain ⟨before, after, hflat, hoffset⟩ := mem_withOffsets (mem_markerLines.mp hl).1
    rw [flatten_lines] at hflat
    simp [hflat, hoffset]
  · rw [← flatten_lines data] at h
    obtain ⟨l, hl, q, hq, hplace⟩ := exists_line_of_occursAt hfree (endsLine_lines data) 0 h
    exact ⟨l, mem_markerLines.mpr ⟨hl, q, hq⟩, q, hq, by omega⟩
  · rintro ⟨l, hl, q, hq, rfl⟩
    exact occursAt_of_mem_withOffsets (mem_markerLines.mp hl).1 hq

/-- Four lines with the three kinds of terminators and without one. The second line has the marker
behind its first byte, and the third does not have it. -/
theorem markerLines_exact_terminators :
    (∀ b ∈ [97, 98], ¬IsTerminator b) ∧
      markerLines ⟨#[97, 98], by decide⟩ [97, 98, 13, 10, 120, 97, 98, 13, 98, 10, 97, 98] =
        [(0, [97, 98, 13, 10]), (4, [120, 97, 98, 13]), (10, [97, 98])] ∧
      AreLines [97, 98, 13, 10, 120, 97, 98, 13, 98, 10, 97, 98]
        [[97, 98, 13, 10], [120, 97, 98, 13], [98, 10], [97, 98]] ∧
      OccursAt ([97, 98] : List UInt8) [97, 98, 13, 10, 120, 97, 98, 13, 98, 10, 97, 98]
        (4 + 1) := by
  have hfree : ∀ b ∈ [97, 98], ¬IsTerminator b := not_isTerminator_of_all (by decide)
  have hfound : markerLines ⟨#[97, 98], by decide⟩
      [97, 98, 13, 10, 120, 97, 98, 13, 98, 10, 97, 98] =
        [(0, [97, 98, 13, 10]), (4, [120, 97, 98, 13]), (10, [97, 98])] := by cbv
  have hlines : lines [97, 98, 13, 10, 120, 97, 98, 13, 98, 10, 97, 98] =
      [[97, 98, 13, 10], [120, 97, 98, 13], [98, 10], [97, 98]] := by decide
  obtain ⟨hcut, -, -, -, -, hplaces⟩ := markerLines_exact ⟨#[97, 98], by decide⟩
    [97, 98, 13, 10, 120, 97, 98, 13, 98, 10, 97, 98]
  refine ⟨hfree, hfound, (hcut _).mpr hlines.symm, (hplaces hfree _).mpr ?_⟩
  rw [hfound]
  exact ⟨(4, [120, 97, 98, 13]), by simp, 1, by decide, rfl⟩

/-- A marker with a terminator stands in a file and in none of its lines. -/
example : Needle.occursIn ⟨#[97, 13, 10, 98], by decide⟩ #[97, 13, 10, 98] = true ∧
    markerLines ⟨#[97, 13, 10, 98], by decide⟩ [97, 13, 10, 98] = [] := by cbv

end LabelTally.Comment
