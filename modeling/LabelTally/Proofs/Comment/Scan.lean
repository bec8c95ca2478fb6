import LabelTally.Comment.Scan
import LabelTally.Proofs.Comment.Arguments
import LabelTally.Proofs.Occurrence.Search
import LabelTally.Proofs.Text.Lines

/-!
# Scanning a line

A scan moves a position through the line: it goes to the next marker, reads what follows it, and
goes on after the marker or after its argument list. The run of a scan is described as a relation
between a position of the line and the matches from there on, so that what holds of every match is
shown by induction on runs. A scan fails exactly where it comes to a count of too many digits.
-/

namespace LabelTally.Comment

open Decimal Occurrence Text

/-- The bytes that belong to a match: up to the closing parenthesis of its argument list, valid or
with a bad count, and the marker alone without one. -/
def Match.extent (m : Match) : Span :=
  match m.outcome with
  | .valid args => ⟨m.offset, m.offset + m.markerLength + args.length⟩
  | .invalidCount span => ⟨m.offset, span.stop + 1⟩
  | .malformed => ⟨m.offset, m.offset + m.markerLength⟩

/-- The match reports the marker at a position of a line that begins at an offset. -/
structure Reports (marker : Needle UInt8) (line : List UInt8) (offset : Int) (p : Nat)
    (m : Match) : Prop where
  /-- The marker stands there. -/
  occurs : OccursAt marker.items.toList line p
  /-- The match has the place of the marker. -/
  place : m.offset = offset + p
  /-- It has the length of the marker. -/
  length : m.markerLength = marker.length
  /-- It holds what follows the marker. -/
  outcome : Outcome.read (line.drop (p + marker.length)) (offset + (p + marker.length : Nat)) =
    .ok m.outcome

/-- Where a scan goes on after the marker at a position. -/
def resumeAfter (marker : Needle UInt8) (line : List UInt8) (p : Nat) : Nat :=
  p + marker.length + argumentLength (line.drop (p + marker.length))

/-- The run of a scan from a position of a line to its result. -/
inductive ScanRun (marker : Needle UInt8) (line : List UInt8) (offset : Int) :
    Nat → Except TooManyDigits (List Match) → Prop
  /-- No marker is left. -/
  | done {pos : Nat} (hnone : IsFirst marker.items.toList line pos none) :
    ScanRun marker line offset pos (.ok [])
  /-- What follows the next marker cannot be read. -/
  | fails {pos p : Nat} {e : TooManyDigits}
    (hfirst : IsFirst marker.items.toList line pos (some p))
    (hread : Outcome.read (line.drop (p + marker.length)) (offset + (p + marker.length : Nat)) =
      .error e) :
    ScanRun marker line offset pos (.error e)
  /-- The next marker is reported, and the scan goes on. -/
  | step {pos p : Nat} {m : Match} {r : Except TooManyDigits (List Match)}
    (hfirst : IsFirst marker.items.toList line pos (some p))
    (hreports : Reports marker line offset p m)
    (hrest : ScanRun marker line offset (resumeAfter marker line p) r) :
    ScanRun marker line offset pos (r.map (m :: ·))

/-- What a match takes after its marker is the argument list that stands there. -/
theorem consumed_eq_argumentLength {bytes : List UInt8} {start : Int} {o : Outcome}
    (h : Outcome.read bytes start = .ok o) : consumed bytes o = argumentLength bytes := by
  rcases Outcome.read_eq_ok h with ⟨hread, rfl⟩ | ⟨a, hread, hmeans⟩
  · simp only [consumed, argumentLength, hread]
  · cases hmeans with
    | blank hblank =>
      rw [argumentLength_of_blank hread hblank, consumed]
    | plain hblank _ =>
      rw [argumentLength_of_label hread hblank, consumed, hread, Option.map_some, Option.getD_some]
      simp
    | counted c n hblank _ _ =>
      rw [argumentLength_of_label hread hblank, consumed, hread, Option.map_some, Option.getD_some]
      simp
    | refused c hblank _ _ =>
      rw [argumentLength_of_label hread hblank, consumed, hread, Option.map_some, Option.getD_some]
      simp

/-- The extent of a match ends where the scan goes on. -/
theorem Reports.extent_stop {marker : Needle UInt8} {line : List UInt8} {offset : Int} {p : Nat}
    {m : Match} (h : Reports marker line offset p m) :
    m.extent = ⟨offset + p, offset + resumeAfter marker line p⟩ := by
  have hplace := h.place
  have hlength := h.length
  rcases Outcome.read_eq_ok h.outcome with ⟨hread, ho⟩ | ⟨a, hread, hmeans⟩
  · simp only [Match.extent, ho, resumeAfter, argumentLength, hread, hplace, hlength]
    congr 1
    omega
  · generalize ho : m.outcome = o at hmeans
    cases hmeans with
    | blank hblank =>
      simp only [Match.extent, ho, resumeAfter, argumentLength_of_blank hread hblank, hplace,
        hlength]
      congr 1
      omega
    | plain hblank _ =>
      simp only [Match.extent, ho, resumeAfter, argumentLength_of_label hread hblank, hplace,
        hlength]
      congr 1
      omega
    | counted c n hblank _ _ =>
      simp only [Match.extent, ho, resumeAfter, argumentLength_of_label hread hblank, hplace,
        hlength]
      congr 1
      omega
    | refused c hblank hcount _ =>
      simp only [Match.extent, ho, resumeAfter, argumentLength_of_label hread hblank, hplace,
        ArgumentBytes.countSpan, ArgumentBytes.size, hcount, CountBytes.size]
      congr 1
      split <;> omega

/-- A scan goes on behind the marker. -/
theorem lt_resumeAfter (marker : Needle UInt8) (line : List UInt8) (p : Nat) :
    p < resumeAfter marker line p := by
  have hn := marker.nonempty
  simp only [resumeAfter, Needle.length]
  omega

/-- Scanning what follows a position is a run from there. -/
theorem scanLine_run (marker : Needle UInt8) (line : List UInt8) (offset : Int) (pos : Nat) :
    ScanRun marker line offset pos (scanLine marker (offset + pos) (line.drop pos)) := by
  have hfirst := (marker.find?_isFirst (line.drop pos).toArray 0).of_drop
  rw [scanLine]
  by_cases hempty : (line.drop pos).length = 0
  · rw [dif_pos hempty]
    refine .done fun q hq ho => ?_
    have hle := marker.add_length_le ho
    have hn := marker.nonempty
    rw [List.length_drop] at hempty
    simp only [Needle.length] at hle
    omega
  · rw [dif_neg hempty]
    cases hfind : marker.find? (line.drop pos).toArray 0 with
    | none =>
      rw [hfind] at hfirst
      exact .done hfirst
    | some p =>
      rw [hfind] at hfirst
      have hrest : (line.drop pos).drop (p + marker.length) =
          line.drop (pos + p + marker.length) := by
        rw [List.drop_drop, Nat.add_assoc]
      have hstart : offset + pos + (p + marker.length : Nat) =
          offset + (pos + p + marker.length : Nat) := by omega
      dsimp only
      rw [hrest, hstart]
      cases hread : Outcome.read (line.drop (pos + p + marker.length))
          (offset + (pos + p + marker.length : Nat)) with
      | error e => exact .fails hfirst hread
      | ok o =>
        have hsize := consumed_eq_argumentLength hread
        have hnext := scanLine_run marker line offset (resumeAfter marker line (pos + p))
        have hreports : Reports marker line offset (pos + p) ⟨offset + pos + p, o, marker.length⟩ :=
          ⟨hfirst.2.1, by simp only; omega, rfl, hread⟩
        rw [show (offset + (resumeAfter marker line (pos + p) : Nat) : Int) =
          offset + (pos + p + marker.length : Nat) +
            (argumentLength (line.drop (pos + p + marker.length)) : Nat) by
          simp only [resumeAfter]; omega] at hnext
        rw [show line.drop (resumeAfter marker line (pos + p)) =
          (line.drop (pos + p + marker.length)).drop
            (argumentLength (line.drop (pos + p + marker.length))) by
          rw [List.drop_drop, resumeAfter]] at hnext
        rw [show (Except.ok o : Except TooManyDigits Outcome) = pure o from rfl, pure_bind, hsize,
          bind_pure_comp]
        exact .step hfirst hreports hnext
termination_by line.length - pos
decreasing_by
  have hlt := lt_resumeAfter marker line (pos + p)
  rw [List.length_drop] at hempty
  omega

section Unique

variable {n : Needle UInt8} {line : List UInt8} {offset : Int}

/-- The marker at a place is reported by one match. -/
theorem Reports.unique {p : Nat} {m m' : Match} (h : Reports n line offset p m)
    (h' : Reports n line offset p m') : m = m' := by
  obtain ⟨place, outcome, length⟩ := m
  obtain ⟨place', outcome', length'⟩ := m'
  have houtcome : outcome = outcome' := Except.ok.inj (h.outcome.symm.trans h'.outcome)
  have hplace : place = place' := h.place.trans h'.place.symm
  have hlength : length = length' := h.length.trans h'.length.symm
  rw [houtcome, hplace, hlength]

/-- A run from a place has one result. -/
theorem ScanRun.unique {pos : Nat} {r r' : Except TooManyDigits (List Match)}
    (h : ScanRun n line offset pos r) (h' : ScanRun n line offset pos r') : r = r' := by
  induction h generalizing r' with
  | done hnone =>
    cases h' with
    | done _ => rfl
    | fails hfirst _ => exact absurd hfirst.2.1 (hnone _ hfirst.1)
    | step hfirst _ _ => exact absurd hfirst.2.1 (hnone _ hfirst.1)
  | fails hfirst hread =>
    cases h' with
    | done hnone => exact absurd hfirst.2.1 (hnone _ hfirst.1)
    | fails hfirst' hread' =>
      cases hfirst.unique hfirst'
      rw [hread] at hread'
      cases hread'
      rfl
    | step hfirst' hreports _ =>
      cases hfirst.unique hfirst'
      rw [hreports.outcome] at hread
      cases hread
  | step hfirst hreports _ ih =>
    cases h' with
    | done hnone => exact absurd hfirst.2.1 (hnone _ hfirst.1)
    | fails hfirst' hread =>
      cases hfirst.unique hfirst'
      rw [hreports.outcome] at hread
      cases hread
    | step hfirst' hreports' hrest' =>
      cases hfirst.unique hfirst'
      rw [ih hrest', hreports.unique hreports']

end Unique

/-- Every match of a run reports a marker of the line. -/
theorem ScanRun.reports {marker : Needle UInt8} {line : List UInt8} {offset : Int} {pos : Nat}
    {found : List Match} (h : ScanRun marker line offset pos (.ok found)) :
    ∀ m ∈ found, ∃ p, Reports marker line offset p m := by
  generalize hr : Except.ok found = r at h
  induction h generalizing found with
  | done hnone =>
    cases hr
    simp
  | fails hfirst hread => cases hr
  | @step pos p m r hfirst hreports hrest ih =>
    cases r with
    | error e => cases hr
    | ok more =>
      cases hr
      intro m' hm'
      rcases List.mem_cons.mp hm' with rfl | hm'
      · exact ⟨p, hreports⟩
      · exact ih rfl m' hm'

/-- A run from a position comes to the marker at another one. -/
inductive Reached (marker : Needle UInt8) (line : List UInt8) : Nat → Nat → Prop
  /-- It is the next marker. -/
  | next {pos p : Nat} (hfirst : IsFirst marker.items.toList line pos (some p)) :
    Reached marker line pos p
  /-- It comes after the extent of the next marker. -/
  | later {pos q p : Nat} (hfirst : IsFirst marker.items.toList line pos (some q))
    (hrest : Reached marker line (resumeAfter marker line q) p) : Reached marker line pos p

/-- A marker that is reached stands in the line. -/
theorem Reached.occursAt {marker : Needle UInt8} {line : List UInt8} {pos p : Nat}
    (h : Reached marker line pos p) : OccursAt marker.items.toList line p := by
  induction h with
  | next hfirst => exact hfirst.2.1
  | later hfirst hrest ih => exact ih

/-- A run that fails has reached a marker with something behind it that cannot be read. -/
theorem ScanRun.exists_of_error {marker : Needle UInt8} {line : List UInt8} {offset : Int}
    {pos : Nat} {e : TooManyDigits} (h : ScanRun marker line offset pos (.error e)) :
    ∃ p, Reached marker line pos p ∧
      Outcome.read (line.drop (p + marker.length)) (offset + (p + marker.length : Nat)) =
        .error e := by
  generalize hr : Except.error e = r at h
  induction h with
  | done hnone => cases hr
  | @fails pos p e' hfirst hread =>
    cases hr
    exact ⟨p, .next hfirst, hread⟩
  | @step pos p m r hfirst hreports hrest ih =>
    cases r with
    | ok more => cases hr
    | error e' =>
      cases hr
      obtain ⟨q, hreached, hread⟩ := ih rfl
      exact ⟨q, .later hfirst hreached, hread⟩

/-- A run that does not fail has read what follows every marker that it reaches. -/
theorem ScanRun.read_of_reached {marker : Needle UInt8} {line : List UInt8} {offset : Int}
    {pos p : Nat} {found : List Match} (h : ScanRun marker line offset pos (.ok found))
    (hp : Reached marker line pos p) :
    ∃ o, Outcome.read (line.drop (p + marker.length)) (offset + (p + marker.length : Nat)) =
      .ok o := by
  induction hp generalizing found with
  | @next pos p hfirst =>
    generalize hr : Except.ok found = r at h
    cases h with
    | done hnone => exact absurd hfirst.2.1 (hnone p hfirst.1)
    | fails hfirst' hread => cases hr
    | @step _ p' m r' hfirst' hreports hrest =>
      cases hfirst.unique hfirst'
      exact ⟨m.outcome, hreports.outcome⟩
  | @later pos q p hfirst hreached ih =>
    generalize hr : Except.ok found = r at h
    cases h with
    | done hnone => exact absurd hfirst.2.1 (hnone q hfirst.1)
    | fails hfirst' hread => cases hr
    | @step _ q' m r' hfirst' hreports hrest =>
      cases hfirst.unique hfirst'
      cases r' with
      | error e => cases hr
      | ok more => exact ih hrest

/-- Scanning a line is a run from its first byte. -/
theorem scanLine_run_zero (marker : Needle UInt8) (line : List UInt8) (offset : Int) :
    ScanRun marker line offset 0 (scanLine marker offset line) := by
  have hrun := scanLine_run marker line offset 0
  rwa [List.drop_zero, Int.natCast_zero, Int.add_zero] at hrun

/-- Every match of a line reports a marker of the line. -/
theorem exists_reports_of_scanLine {marker : Needle UInt8} {line : List UInt8} {offset : Int}
    {found : List Match} (h : scanLine marker offset line = .ok found) :
    ∀ m ∈ found, ∃ p, Reports marker line offset p m := by
  have hrun := scanLine_run_zero marker line offset
  rw [h] at hrun
  exact hrun.reports

/-- A line without the marker has no matches. -/
theorem scanLine_of_not_occursIn {marker : Needle UInt8} {line : List UInt8}
    (h : ¬marker.occursIn line.toArray = true) (offset : Int) :
    scanLine marker offset line = .ok [] := by
  rw [marker.occursIn_iff] at h
  have hrun := scanLine_run_zero marker line offset
  generalize scanLine marker offset line = r at hrun
  cases hrun with
  | done hnone => rfl
  | fails hfirst hread => exact absurd ⟨_, hfirst.2.1⟩ h
  | step hfirst hreports hrest => exact absurd ⟨_, hfirst.2.1⟩ h

/-- Lines are scanned one after the other. -/
theorem scanLines_cons (marker : Needle UInt8) (offset : Nat) (line : List UInt8)
    (rest : List (Nat × List UInt8)) :
    scanLines marker ((offset, line) :: rest) =
      (scanLine marker offset line >>= fun here =>
        (here ++ ·) <$> scanLines marker rest) := by
  simp only [scanLines, bind_pure_comp]

/-- Several lines have the matches of the first and of the others. -/
theorem scanLines_cons_eq_ok {marker : Needle UInt8} {offset : Nat} {line : List UInt8}
    {rest : List (Nat × List UInt8)} {found : List Match}
    (h : scanLines marker ((offset, line) :: rest) = .ok found) :
    ∃ here there, scanLine marker offset line = .ok here ∧ scanLines marker rest = .ok there ∧
      found = here ++ there := by
  rw [scanLines_cons] at h
  cases hhere : scanLine marker offset line with
  | error e => rw [hhere] at h; cases h
  | ok here =>
    cases hthere : scanLines marker rest with
    | error e => rw [hhere, hthere] at h; cases h
    | ok there =>
      rw [hhere, hthere] at h
      cases h
      exact ⟨here, there, rfl, rfl, rfl⟩

/-- Every match of several lines reports a marker of one of them. -/
theorem exists_reports_of_scanLines {marker : Needle UInt8} {ls : List (Nat × List UInt8)}
    {found : List Match} (h : scanLines marker ls = .ok found) :
    ∀ m ∈ found, ∃ l ∈ ls, ∃ p, Reports marker l.2 l.1 p m := by
  induction ls generalizing found with
  | nil =>
    cases h
    simp
  | cons l rest ih =>
    obtain ⟨here, there, hhere, hthere, rfl⟩ := scanLines_cons_eq_ok h
    intro m hm
    rcases List.mem_append.mp hm with hm | hm
    · exact ⟨l, List.mem_cons_self, exists_reports_of_scanLine hhere m hm⟩
    · obtain ⟨l', hl', hreports⟩ := ih hthere m hm
      exact ⟨l', List.mem_cons_of_mem _ hl', hreports⟩

/-- Scanning lines fails where it fails on a first line. -/
theorem exists_of_scanLines_eq_error {marker : Needle UInt8} {ls : List (Nat × List UInt8)}
    {e : TooManyDigits} (h : scanLines marker ls = .error e) :
    ∃ l ∈ ls, scanLine marker l.1 l.2 = .error e := by
  induction ls with
  | nil => cases h
  | cons l rest ih =>
    rw [scanLines_cons] at h
    cases hhere : scanLine marker l.1 l.2 with
    | error e' =>
      rw [hhere] at h
      cases h
      exact ⟨l, List.mem_cons_self, hhere⟩
    | ok here =>
      cases hthere : scanLines marker rest with
      | error e' =>
        rw [hhere, hthere] at h
        cases h
        obtain ⟨l', hl', he⟩ := ih hthere
        exact ⟨l', List.mem_cons_of_mem _ hl', he⟩
      | ok there => rw [hhere, hthere] at h; cases h

/-- If lines are scanned, each of them is. -/
theorem exists_scanLine_of_scanLines {marker : Needle UInt8} {ls : List (Nat × List UInt8)}
    {found : List Match} (h : scanLines marker ls = .ok found) :
    ∀ l ∈ ls, ∃ here, scanLine marker l.1 l.2 = .ok here := by
  induction ls generalizing found with
  | nil => simp
  | cons l rest ih =>
    obtain ⟨here, there, hhere, hthere, _⟩ := scanLines_cons_eq_ok h
    intro l' hl'
    rcases List.mem_cons.mp hl' with rfl | hl'
    · exact ⟨here, hhere⟩
    · exact ih hthere l' hl'

/-- Lines without the marker can be left out. -/
theorem scanLines_filter (marker : Needle UInt8) (ls : List (Nat × List UInt8)) :
    scanLines marker (ls.filter fun l => marker.occursIn l.2.toArray) = scanLines marker ls := by
  induction ls with
  | nil => rfl
  | cons l rest ih =>
    rw [List.filter_cons]
    split
    · rw [scanLines_cons, scanLines_cons, ih]
    · rename_i hnone
      rw [scanLines_cons, scanLine_of_not_occursIn hnone, ih]
      cases scanLines marker rest <;> rfl

/-- Lines that are put behind others have offsets behind them. -/
theorem withOffsets_append (k : Nat) (earlier later : List (List UInt8)) :
    withOffsets k (earlier ++ later) =
      withOffsets k earlier ++ withOffsets (k + earlier.flatten.length) later := by
  induction earlier generalizing k with
  | nil => rfl
  | cons line earlier ih =>
    rw [List.cons_append, withOffsets, withOffsets, ih, List.flatten_cons, List.length_append,
      Nat.add_assoc, List.cons_append]

/-- The offset of a line counts the bytes of the lines before it. -/
theorem exists_append_of_mem_withOffsets {k : Nat} {ls : List (List UInt8)} {l : Nat × List UInt8}
    (h : l ∈ withOffsets k ls) :
    ∃ earlier later, ls = earlier ++ l.2 :: later ∧ l.1 = k + earlier.flatten.length := by
  induction ls generalizing k with
  | nil => cases h
  | cons line rest ih =>
    rcases List.mem_cons.mp h with rfl | hlater
    · exact ⟨[], rest, rfl, rfl⟩
    · obtain ⟨earlier, later, hls, hoffset⟩ := ih hlater
      refine ⟨line :: earlier, later, by rw [hls]; rfl, ?_⟩
      rw [hoffset, List.flatten_cons, List.length_append]
      omega

/-- A line with its offset has its place in the file. -/
theorem mem_withOffsets {k : Nat} {ls : List (List UInt8)} {l : Nat × List UInt8}
    (h : l ∈ withOffsets k ls) :
    ∃ before after, ls.flatten = before ++ l.2 ++ after ∧ l.1 = k + before.length := by
  obtain ⟨earlier, later, hls, hoffset⟩ := exists_append_of_mem_withOffsets h
  refine ⟨earlier.flatten, later.flatten, ?_, hoffset⟩
  rw [hls, List.flatten_append, List.flatten_cons, List.append_assoc]

/-- What stands in a line stands in the file, behind the offset of the line. -/
theorem occursAt_of_mem_withOffsets {marker : Needle UInt8} {data : List UInt8}
    {l : Nat × List UInt8} {p : Nat} (hl : l ∈ withOffsets 0 (lines data))
    (hp : OccursAt marker.items.toList l.2 p) : OccursAt marker.items.toList data (l.1 + p) := by
  obtain ⟨before, after, hflat, hoffset⟩ := mem_withOffsets hl
  rw [flatten_lines] at hflat
  rw [hflat, hoffset, Nat.zero_add]
  exact hp.append marker.length_toList_pos before after

/-- Looking for the marker in the whole file first drops no line. -/
theorem markerLines_eq_filter (marker : Needle UInt8) (data : List UInt8) :
    markerLines marker data =
      (withOffsets 0 (lines data)).filter fun l => marker.occursIn l.2.toArray := by
  rw [markerLines]
  split
  · rfl
  · rename_i hnone
    rw [marker.occursIn_iff] at hnone
    symm
    rw [List.filter_eq_nil_iff]
    intro l hl hoccurs
    obtain ⟨p, hp⟩ := (marker.occursIn_iff l.2.toArray).mp hoccurs
    exact hnone ⟨l.1 + p, occursAt_of_mem_withOffsets hl hp⟩

/-- A file is scanned as if all its lines were. -/
theorem scan_eq_scanLines (marker : Needle UInt8) (data : List UInt8) :
    scan marker data = scanLines marker (withOffsets 0 (lines data)) := by
  rw [scan, markerLines_eq_filter, scanLines_filter]

/-- A line in which the marker stands is one of those that are scanned. -/
theorem mem_markerLines {marker : Needle UInt8} {data : List UInt8} {l : Nat × List UInt8} :
    l ∈ markerLines marker data ↔
      l ∈ withOffsets 0 (lines data) ∧ ∃ p, OccursAt marker.items.toList l.2 p := by
  rw [markerLines_eq_filter, List.mem_filter, marker.occursIn_iff]

/-- A scan that fails has reached a marker with something behind it that cannot be read. -/
theorem exists_reached_of_scan_eq_error {marker : Needle UInt8} {data : List UInt8}
    {e : TooManyDigits} (h : scan marker data = .error e) :
    ∃ l ∈ markerLines marker data, ∃ p, Reached marker l.2 0 p ∧
      Outcome.read (l.2.drop (p + marker.length)) (l.1 + (p + marker.length : Nat)) =
        .error e := by
  obtain ⟨l, hl, he⟩ := exists_of_scanLines_eq_error h
  have hrun := scanLine_run_zero marker l.2 l.1
  rw [he] at hrun
  obtain ⟨p, hreached, hread⟩ := hrun.exists_of_error
  exact ⟨l, hl, p, hreached, hread⟩

/-- The marker of an annotation ends no line. -/
theorem marker_free : ∀ b ∈ marker.items.toList, ¬IsTerminator b :=
  not_isTerminator_of_all (by decide)

/-- A scan comes to a marker with a second argument that is too long a run of digits. -/
def MeetsOverlongCount (marker : Needle UInt8) (data : List UInt8) : Prop :=
  ∃ l ∈ markerLines marker data, ∃ p, Reached marker l.2 0 p ∧
    HasOverlongCount (l.2.drop (p + marker.length))

/-- Scanning a file fails exactly if it comes to a count that is too long. -/
theorem scan_eq_error_iff {marker : Needle UInt8} {data : List UInt8} :
    (∃ e, scan marker data = .error e) ↔ MeetsOverlongCount marker data := by
  constructor
  · rintro ⟨e, h⟩
    obtain ⟨l, hl, p, hreached, hread⟩ := exists_reached_of_scan_eq_error h
    exact ⟨l, hl, p, hreached, Outcome.read_eq_error_iff.mp ⟨e, hread⟩⟩
  · rintro ⟨l, hl, p, hreached, hlong⟩
    cases hscan : scan marker data with
    | error e => exact ⟨e, rfl⟩
    | ok found =>
      obtain ⟨here, hhere⟩ := exists_scanLine_of_scanLines hscan l hl
      have hrun := scanLine_run_zero marker l.2 l.1
      rw [hhere] at hrun
      obtain ⟨o, ho⟩ := hrun.read_of_reached hreached
      obtain ⟨e, he⟩ := Outcome.read_eq_error_iff.mpr hlong
      rw [ho] at he
      cases he

/-- A file that is one annotation with a count of too many digits cannot be scanned. -/
theorem meetsOverlongCount_of_written {marker : Needle UInt8} {a : ArgumentBytes} {c : CountBytes}
    (ha : a.WellFormed) (hblank : a.isBlank = false) (hcount : a.count = some c)
    (hdigits : ∀ b ∈ c.raw, IsDigitByte b) (hlong : digitLimit < c.raw.length)
    (hfree : ∀ b ∈ marker.items.toList ++ a.write, ¬IsTerminator b) :
    MeetsOverlongCount marker (marker.items.toList ++ a.write) := by
  have hoccurs : OccursAt marker.items.toList (marker.items.toList ++ a.write) 0 :=
    List.prefix_append _ _
  have hlines : lines (marker.items.toList ++ a.write) = [marker.items.toList ++ a.write] := by
    refine lines_of_free ?_ hfree
    simp [ArgumentBytes.write]
  refine ⟨(0, marker.items.toList ++ a.write), mem_markerLines.mpr ⟨?_, 0, hoccurs⟩, 0, ?_, ?_⟩
  · rw [hlines]
    exact List.mem_cons_self
  · exact .next ⟨Nat.le_refl 0, hoccurs, fun q _ _ => Nat.zero_le q⟩
  · have hdrop : (marker.items.toList ++ a.write).drop (0 + marker.length) = a.write ++ [] := by
      simp [Needle.length]
    rw [hdrop]
    exact hasOverlongCount_of_written ha hblank hcount hdigits hlong []

end LabelTally.Comment
