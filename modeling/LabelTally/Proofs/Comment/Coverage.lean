import LabelTally.Proofs.Comment.Spans

/-!
# The matches of a file cover its markers

Every marker of a file lies in the extent of exactly one match, and extents do not overlap. So a
marker is reported unless it begins inside the extent of an earlier match. This is shown for the run
of a scan over one line, and from line to line, since no marker stands across the end of a line.
-/

namespace LabelTally

/-- The positions of a span. -/
def Span.positions (s : Span) : Set Int := Set.Ico s.start s.stop

namespace Comment

open Decimal Occurrence Text

/-- The matches cover the markers of some bytes from a position on: each match has a marker of its
own and ends within the bytes, the next one begins after it, and every marker lies in one. -/
structure Covers (marker : Needle UInt8) (bytes : List UInt8) (offset : Int) (pos : Nat)
    (found : List Match) : Prop where
  /-- A match begins with a marker and ends within the bytes. -/
  reported : ∀ m ∈ found, ∃ p, pos ≤ p ∧ OccursAt marker.items.toList bytes p ∧
    m.offset = offset + p ∧ m.extent.start = m.offset ∧ m.offset < m.extent.stop ∧
    m.extent.stop ≤ offset + bytes.length
  /-- A match begins after the end of the ones before. -/
  ordered : found.Pairwise fun m m' => m.extent.stop ≤ m'.offset
  /-- Every marker lies in a match. -/
  complete : ∀ p, pos ≤ p → OccursAt marker.items.toList bytes p →
    ∃ m ∈ found, m.offset ≤ offset + p ∧ offset + p < m.extent.stop

/-- Of two matches one ends before the other begins. -/
theorem Covers.apart {marker : Needle UInt8} {bytes : List UInt8} {offset : Int} {pos : Nat}
    {found : List Match} (h : Covers marker bytes offset pos found) {m m' : Match} (hm : m ∈ found)
    (hm' : m' ∈ found) : m = m' ∨ m.extent.stop ≤ m'.offset ∨ m'.extent.stop ≤ m.offset := by
  let Apart (m m' : Match) : Prop :=
    m = m' ∨ m.extent.stop ≤ m'.offset ∨ m'.extent.stop ≤ m.offset
  have hforth : found.Pairwise Apart := h.ordered.imp fun hle => Or.inr (Or.inl hle)
  have hback : found.Pairwise (flip Apart) := h.ordered.imp fun hle => Or.inr (Or.inr hle)
  have hself : ∀ m ∈ found, Apart m m := fun _ _ => Or.inl rfl
  exact List.Pairwise.forall_of_forall_of_flip hself hforth hback hm hm'

/-- A scan goes on within the line. -/
theorem resumeAfter_le {marker : Needle UInt8} {line : List UInt8} {p : Nat}
    (h : OccursAt marker.items.toList line p) : resumeAfter marker line p ≤ line.length := by
  have hle := marker.add_length_le h
  have hargs := argumentLength_le (line.drop (p + marker.length))
  rw [List.length_drop] at hargs
  rw [resumeAfter]
  omega

/-- The matches of a run cover the markers from its position on. -/
theorem ScanRun.covers {marker : Needle UInt8} {line : List UInt8} {offset : Int} {pos : Nat}
    {found : List Match} (h : ScanRun marker line offset pos (.ok found)) :
    Covers marker line offset pos found := by
  generalize hr : Except.ok found = r at h
  induction h generalizing found with
  | done hnone =>
    cases hr
    exact ⟨by simp, List.Pairwise.nil, fun p hp ho => absurd ho (hnone p hp)⟩
  | fails hfirst hread => cases hr
  | @step pos p m r hfirst hreports hrest ih =>
    cases r with
    | error e => cases hr
    | ok more =>
      cases hr
      have hmore := ih rfl
      have hlt := lt_resumeAfter marker line p
      have hle := resumeAfter_le hreports.occurs
      have hplace := hreports.place
      have hextent := hreports.extent_stop
      obtain ⟨hpos, hoccurs, hearliest⟩ := hfirst
      refine ⟨?_, ?_, ?_⟩
      · intro m' hm'
        rcases List.mem_cons.mp hm' with rfl | hm'
        · refine ⟨p, hpos, hoccurs, hplace, ?_, ?_, ?_⟩
          · rw [hextent, hplace]
          · rw [hextent, hplace]
            simp only
            omega
          · rw [hextent]
            simp only
            omega
        · obtain ⟨q, hq, hrep⟩ := hmore.reported m' hm'
          exact ⟨q, by omega, hrep⟩
      · refine List.pairwise_cons.mpr ⟨fun m' hm' => ?_, hmore.ordered⟩
        obtain ⟨q, hq, _, hplace', _⟩ := hmore.reported m' hm'
        rw [hextent, hplace']
        simp only
        omega
      · intro q hq ho
        -- A marker before the place where the scan goes on lies in this match.
        by_cases hbefore : q < resumeAfter marker line p
        · have hge := hearliest q hq ho
          refine ⟨m, List.mem_cons_self, by omega, ?_⟩
          rw [hextent]
          simp only
          omega
        · obtain ⟨m', hm', hin⟩ := hmore.complete q (by omega) ho
          exact ⟨m', List.mem_cons_of_mem _ hm', hin⟩

/-- Matches of a line and matches of what follows cover both, if no marker stands across. -/
theorem Covers.append {marker : Needle UInt8} {before line after : List UInt8}
    {here there : List Match} (hhere : Covers marker line before.length 0 here)
    (hthere : Covers marker (before ++ line ++ after) 0 (before ++ line).length there)
    (hacross : ∀ p, OccursAt marker.items.toList (line ++ after) p →
      OccursAt marker.items.toList line p ∨ line.length ≤ p) :
    Covers marker (before ++ line ++ after) 0 before.length (here ++ there) := by
  have hn := marker.length_toList_pos
  refine ⟨?_, ?_, ?_⟩
  · intro m hm
    rcases List.mem_append.mp hm with hm | hm
    · obtain ⟨p, _, ho, hplace, hstart, hlt, hstop⟩ := hhere.reported m hm
      refine ⟨before.length + p, by omega, ho.append hn before after, by omega, hstart, hlt, ?_⟩
      simp only [List.length_append]
      omega
    · obtain ⟨p, hp, hrest⟩ := hthere.reported m hm
      rw [List.length_append] at hp
      exact ⟨p, by omega, hrest⟩
  · refine List.pairwise_append.mpr ⟨hhere.ordered, hthere.ordered, fun m hm m' hm' => ?_⟩
    obtain ⟨p, _, _, _, _, _, hstop⟩ := hhere.reported m hm
    obtain ⟨q, hq, _, hplace, _⟩ := hthere.reported m' hm'
    rw [List.length_append] at hq
    omega
  · intro p hp ho
    by_cases hlater : (before ++ line).length ≤ p
    · obtain ⟨m, hm, hin⟩ := hthere.complete p hlater ho
      exact ⟨m, List.mem_append.mpr (Or.inr hm), hin⟩
    · rw [List.append_assoc, OccursAt, show p = before.length + (p - before.length) by omega,
        List.drop_length_add_append] at ho
      rw [List.length_append] at hlater
      rcases hacross _ ho with hline | hbehind
      · obtain ⟨m, hm, hle, hlt⟩ := hhere.complete (p - before.length) (by omega) hline
        exact ⟨m, List.mem_append.mpr (Or.inl hm), by omega, by omega⟩
      · omega

/-- No marker stands across the end of a line that has its terminator. -/
theorem occursAt_line_or_behind {marker : Needle UInt8} {line after : List UInt8} {p : Nat}
    (hfree : ∀ b ∈ marker.items.toList, ¬IsTerminator b) (hend : EndsLine line ∨ after = [])
    (h : OccursAt marker.items.toList (line ++ after) p) :
    OccursAt marker.items.toList line p ∨ line.length ≤ p := by
  have hn := marker.length_toList_pos
  rcases hend with ⟨body, b, rfl, hb⟩ | rfl
  · rcases (occursAt_append_iff hn fun hmem => hfree b hmem hb).mp h with hline | hbehind
    · exact Or.inl hline
    · exact Or.inr hbehind.1
  · rw [List.append_nil] at h
    exact Or.inl h

/-- The matches of lines cover the markers of the lines. -/
theorem scanLines_covers {marker : Needle UInt8}
    (hfree : ∀ b ∈ marker.items.toList, ¬IsTerminator b) (ls : List (List UInt8))
    (hends : ∀ line ∈ ls.dropLast, EndsLine line) (before : List UInt8) {found : List Match}
    (h : scanLines marker (withOffsets before.length ls) = .ok found) :
    Covers marker (before ++ ls.flatten) 0 before.length found := by
  induction ls generalizing before found with
  | nil =>
    cases h
    refine ⟨by simp, List.Pairwise.nil, fun p hp ho => ?_⟩
    have hn := marker.nonempty
    have hle := marker.add_length_le ho
    simp only [List.flatten_nil, List.append_nil, Needle.length] at hle
    omega
  | cons line rest ih =>
    obtain ⟨here, there, hhere, hthere, rfl⟩ := scanLines_cons_eq_ok h
    have hrun := scanLine_run_zero marker line before.length
    rw [hhere] at hrun
    obtain ⟨hend, hends⟩ := endsLine_of_cons hends
    have hrest := ih hends (before ++ line) (by rw [List.length_append]; exact hthere)
    rw [List.flatten_cons, ← List.append_assoc]
    exact hrun.covers.append hrest fun p ho => occursAt_line_or_behind hfree hend ho

/-- The matches of a file cover its markers. -/
theorem scan_covers {data : List UInt8} {found : List Match} (h : scan marker data = .ok found) :
    Covers marker data 0 0 found := by
  rw [scan_eq_scanLines] at h
  have hcovers := scanLines_covers marker_free (lines data) (endsLine_lines data) [] h
  rwa [List.nil_append, flatten_lines] at hcovers

/-- The extent of a match with an argument list ends with the closing parenthesis. -/
theorem Match.IsExact.extent_closes {m : Match} {data : List UInt8} (h : m.IsExact data)
    (ho : m.outcome ≠ .malformed) :
    (Span.mk (m.extent.stop - 1) m.extent.stop).cut? data = some [closeParen] := by
  cases hm : m.outcome with
  | malformed => exact absurd hm ho
  | valid args =>
    have hcloses := (h.valid args hm).closes
    simp only [Match.span, hm] at hcloses
    simpa only [Match.extent, hm] using hcloses
  | invalidCount span =>
    have hcloses := (h.invalid span hm).closes
    simp only [Match.errorSpan, hm] at hcloses
    simpa only [Match.extent, hm, Int.add_sub_cancel] using hcloses

/-- Scanning a file reports every marker that does not begin inside the extent of another match.
The matches come in order, their extents do not overlap, and each lies in one line and ends with its
closing parenthesis unless it is the marker alone. A scan without an answer has met a marker whose
count cannot be read. -/
theorem scan_reports_markers (data : List UInt8) :
    match scan marker data with
    | .ok found =>
      (found.map Match.offset).Pairwise (· < ·) ∧
      found.Pairwise (fun m m' => Disjoint m.extent.positions m'.extent.positions) ∧
      (∀ m ∈ found, (∃ p : Nat, m.offset = p ∧ OccursAt marker.items.toList data p) ∧
        (∃ l ∈ withOffsets 0 (lines data),
          l.1 ≤ m.extent.start ∧ m.extent.stop ≤ l.1 + l.2.length) ∧
        (m.outcome ≠ .malformed →
          (Span.mk (m.extent.stop - 1) m.extent.stop).cut? data = some [closeParen])) ∧
      ∀ p : Nat, OccursAt marker.items.toList data p →
        ((∃ m ∈ found, m.offset = p) ↔ ¬∃ m ∈ found, m.extent.start < p ∧ p < m.extent.stop)
    | .error e =>
      ∃ l ∈ markerLines marker data, ∃ p : Nat, OccursAt marker.items.toList l.2 p ∧
        Outcome.readAt l.2 (p + marker.length : Nat) l.1 = .error e := by
  cases hscan : scan marker data with
  | ok found =>
    have hcovers := scan_covers hscan
    refine ⟨?_, ?_, ?_, ?_⟩
    · refine List.pairwise_map.mpr (hcovers.ordered.imp_of_mem fun {m m'} hm _ hle => ?_)
      obtain ⟨_, _, _, _, _, hlt, _⟩ := hcovers.reported m hm
      omega
    · refine hcovers.ordered.imp_of_mem fun {m m'} _ hm' hle => ?_
      obtain ⟨_, _, _, _, hstart, _, _⟩ := hcovers.reported m' hm'
      refine Set.Ico_disjoint_Ico.mpr ((min_le_left _ _).trans (le_max_of_le_right ?_))
      rw [hstart]
      exact hle
    · intro m hm
      obtain ⟨p, _, ho, hplace, _⟩ := hcovers.reported m hm
      rw [scan_eq_scanLines] at hscan
      obtain ⟨l, hl, q, hreports⟩ := exists_reports_of_scanLines hscan m hm
      refine ⟨⟨p, by omega, ho⟩, ⟨l, hl, ?_⟩, (hreports.isExact_of_mem_lines hl).extent_closes⟩
      have hle := resumeAfter_le hreports.occurs
      rw [hreports.extent_stop]
      simp only
      omega
    · intro p ho
      constructor
      · rintro ⟨m, hm, hplace⟩ ⟨m', hm', hafter, hbefore⟩
        obtain ⟨_, _, _, _, _, hlt, _⟩ := hcovers.reported m hm
        obtain ⟨_, _, _, _, hstart, _, _⟩ := hcovers.reported m' hm'
        rcases hcovers.apart hm hm' with rfl | hle | hle <;> omega
      · intro hnone
        obtain ⟨m, hm, hle, hlt⟩ := hcovers.complete p (Nat.zero_le p) ho
        refine ⟨m, hm, ?_⟩
        by_contra hne
        obtain ⟨_, _, _, _, hstart, _, _⟩ := hcovers.reported m hm
        exact hnone ⟨m, hm, by omega, by omega⟩
  | error e =>
    obtain ⟨l, hl, p, hreached, hread⟩ := exists_reached_of_scan_eq_error hscan
    have hle := marker.add_length_le hreached.occursAt
    have hclip : min (max ((p + marker.length : Nat) : Int) 0) l.2.length =
        (p + marker.length : Nat) := by omega
    refine ⟨l, hl, p, hreached.occursAt, ?_⟩
    rw [Outcome.readAt_eq_read] <;> rw [hclip, Int.toNat_natCast, hread]
    simp

end Comment

end LabelTally
