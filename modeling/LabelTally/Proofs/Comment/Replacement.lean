import LabelTally.Proofs.Comment.Coverage
import LabelTally.Proofs.Comment.Relocation
import LabelTally.Proofs.Text.Seams

/-!
# Replacing an argument list

Another argument list behind a marker that a scan reports changes nothing else that the scan tells.
The markers before it are read as they were: one with an argument list has it closed before the
marker, and one without cannot have taken the marker into a label, since the marker is no blank. The
markers behind it only have other places.
-/

namespace LabelTally.Comment

open Decimal Occurrence Text

/-- Bytes that open an argument list and close one hold a list, whose label ends where it can. -/
theorem exists_read_of_mem {rest : List UInt8} (h : closeParen ∈ rest) :
    ∃ a, ArgumentBytes.read (openParen :: rest) = some a ∧ a.label = rest.takeWhile inLabel := by
  have hsplit := List.takeWhile_append_dropWhile (p := inLabel) (l := rest)
  cases hafter : rest.dropWhile inLabel with
  | nil =>
    have hall := List.dropWhile_eq_nil_iff.mp hafter closeParen h
    exact absurd hall (by decide)
  | cons b after =>
    by_cases hb : b = closeParen
    · exact ⟨⟨rest.takeWhile inLabel, none⟩, by simp [ArgumentBytes.read, hafter, hb], rfl⟩
    · -- The closing parenthesis lies neither in the label nor right behind it.
      have hmem : closeParen ∈ after := by
        rw [← hsplit, hafter, List.mem_append, List.mem_cons] at h
        rcases h with hlabel | he | hlater
        · exact absurd (List.mem_takeWhile_imp hlabel) (by decide)
        · exact absurd he.symm hb
        · exact hlater
      obtain ⟨c, hc⟩ : ∃ c, CountBytes.read after = some c := by
        have hbody : closeParen ∈ if after.head? == some space then after.drop 1 else after := by
          split
          · rename_i hspace
            cases after with
            | nil => cases hmem
            | cons b' after =>
              have hb' : b' = space := by simpa using hspace
              rcases List.mem_cons.mp hmem with he | hlater
              · rw [hb'] at he
                exact absurd he (by decide)
              · exact hlater
          · exact hmem
        exact ⟨_, by rw [CountBytes.read, if_pos (List.contains_iff_mem.mpr hbody)]⟩
      exact ⟨⟨rest.takeWhile inLabel, some c⟩, by simp [ArgumentBytes.read, hafter, hb, hc], rfl⟩

/-- Bytes of which the first opens no argument list hold none. -/
theorem read_cons_eq_none {b : UInt8} (h : b ≠ openParen) (rest : List UInt8) :
    ArgumentBytes.read (b :: rest) = none := by
  simp [ArgumentBytes.read, h]

/-- A label with the first byte of the marker in it is not blank. -/
theorem isBlank_of_marker_mem {a : ArgumentBytes} (h : 67 ∈ a.label) : a.isBlank = false := by
  have hmem : 'C' ∈ Utf8.decode a.label := Utf8.mem_decode_of_ascii h (by decide)
  rw [ArgumentBytes.isBlank, List.isEmpty_eq_false_iff, ne_eq, trim_eq_nil_iff]
  intro hall
  exact absurd (hall 'C' hmem) (by decide)

section Earlier

variable {gap more more' : List UInt8}

/-- An argument list that ends before a marker stands there whatever follows the marker. -/
theorem read_eq_of_size_le {a : ArgumentBytes}
    (hread : ArgumentBytes.read (gap ++ marker.items.toList ++ more) = some a)
    (hsize : a.size ≤ gap.length) :
    ArgumentBytes.read (gap ++ marker.items.toList ++ more') = some a := by
  obtain ⟨hwf, tail, htail⟩ := ArgumentBytes.read_eq_some hread
  obtain ⟨rest, rfl⟩ : a.write <+: gap := by
    refine List.prefix_of_prefix_length_le ⟨tail, htail.symm⟩ ?_ (by rwa [a.length_write])
    rw [List.append_assoc]
    exact List.prefix_append _ _
  rw [List.append_assoc, List.append_assoc]
  exact ArgumentBytes.read_write hwf _

variable (hclose : closeParen ∈ more) (hclose' : closeParen ∈ more')
include hclose hclose'

/-- What is read before a marker that it does not take in is the same whatever list follows the
marker. -/
theorem read_before_marker
    (hsize : argumentLength (gap ++ marker.items.toList ++ more) ≤ gap.length) (start : Int) :
    argumentLength (gap ++ marker.items.toList ++ more') =
        argumentLength (gap ++ marker.items.toList ++ more) ∧
      Outcome.read (gap ++ marker.items.toList ++ more') start =
        Outcome.read (gap ++ marker.items.toList ++ more) start := by
  have hsame : ArgumentBytes.read (gap ++ marker.items.toList ++ more') =
      ArgumentBytes.read (gap ++ marker.items.toList ++ more) →
      argumentLength (gap ++ marker.items.toList ++ more') =
          argumentLength (gap ++ marker.items.toList ++ more) ∧
        Outcome.read (gap ++ marker.items.toList ++ more') start =
          Outcome.read (gap ++ marker.items.toList ++ more) start := by
    intro h
    rw [argumentLength, argumentLength, Outcome.read, Outcome.read, h]
    exact ⟨rfl, rfl⟩
  cases gap with
  | nil => exact hsame rfl
  | cons b gap =>
    by_cases hb : b = openParen
    · subst hb
      obtain ⟨a, hread, hlabel⟩ := exists_read_of_mem
        (show closeParen ∈ gap ++ marker.items.toList ++ more by simp [hclose])
      obtain ⟨a', hread', hlabel'⟩ := exists_read_of_mem
        (show closeParen ∈ gap ++ marker.items.toList ++ more' by simp [hclose'])
      simp only [← List.cons_append] at hread hread'
      cases hblank : a.isBlank with
      | false =>
        rw [argumentLength_of_label hread hblank] at hsize
        exact hsame ((read_eq_of_size_le hread hsize).trans hread.symm)
      | true =>
        -- A blank label ends before the marker, so it is the same label in both.
        have hends : ((gap ++ marker.items.toList).takeWhile inLabel).length ≠
            (gap ++ marker.items.toList).length := by
          intro hall
          rw [List.takeWhile_append, if_pos hall] at hlabel
          have hmem : 67 ∈ a.label := by
            rw [hlabel]
            simp [marker]
          simp [isBlank_of_marker_mem hmem] at hblank
        rw [List.takeWhile_append, if_neg hends] at hlabel hlabel'
        have hblank' : a'.isBlank = true := by
          rwa [ArgumentBytes.isBlank, hlabel', ← hlabel]
        rw [argumentLength_of_blank hread hblank, argumentLength_of_blank hread' hblank',
          Outcome.read, Outcome.read, hread, hread']
        exact ⟨rfl, (ArgumentBytes.Means.blank hblank').interpret_eq.trans
          (ArgumentBytes.Means.blank hblank).interpret_eq.symm⟩
    · refine hsame ?_
      simp only [List.cons_append, read_cons_eq_none hb]

end Earlier

/-- A needle that ends where another one does, or before, stands there whatever follows. -/
theorem occursAt_of_le {needle before more : List UInt8} {q : Nat} (hq : q ≤ before.length)
    (h : OccursAt needle (before ++ needle ++ more) q) (more' : List UInt8) :
    OccursAt needle (before ++ needle ++ more') q := by
  have hle : q ≤ (before ++ needle).length := by
    rw [List.length_append]
    omega
  rw [OccursAt, List.drop_append_of_le_length hle] at h ⊢
  refine List.IsPrefix.trans (List.prefix_of_prefix_length_le h (List.prefix_append _ _) ?_)
    (List.prefix_append _ _)
  rw [List.length_drop, List.length_append]
  omega

/-- The first marker before another one is the first whatever follows that one. -/
theorem isFirst_of_le {needle before more : List UInt8} {pos p : Nat} (hp : p ≤ before.length)
    (h : IsFirst needle (before ++ needle ++ more) pos (some p)) (more' : List UInt8) :
    IsFirst needle (before ++ needle ++ more') pos (some p) := by
  obtain ⟨hpos, hoccurs, hleast⟩ := h
  refine ⟨hpos, occursAt_of_le hp hoccurs more', fun q hq ho => Nat.le_of_not_lt fun hlt => ?_⟩
  have hle := hleast q hq (occursAt_of_le (by omega) ho more)
  omega

/-- A run is one from every earlier place with no marker in between. -/
theorem ScanRun.of_later {n : Needle UInt8} {line : List UInt8} {offset : Int} {pos later : Nat}
    {r : Except TooManyDigits (List Match)} (h : ScanRun n line offset later r) (hle : pos ≤ later)
    (hnone : ∀ q, pos ≤ q → q < later → ¬OccursAt n.items.toList line q) :
    ScanRun n line offset pos r := by
  have hlater : ∀ q, pos ≤ q → OccursAt n.items.toList line q → later ≤ q :=
    fun q hq ho => Nat.le_of_not_lt fun hlt => hnone q hq hlt ho
  have hsome : ∀ p, IsFirst n.items.toList line later (some p) →
      IsFirst n.items.toList line pos (some p) := by
    rintro p ⟨hp, ho, hleast⟩
    exact ⟨by omega, ho, fun q hq hoq => hleast q (hlater q hq hoq) hoq⟩
  cases h with
  | done hnone' => exact .done fun q hq ho => hnone' q (hlater q hq ho) ho
  | fails hfirst hread => exact .fails (hsome _ hfirst) hread
  | step hfirst hreports hrest => exact .step (hsome _ hfirst) hreports hrest

/-- Up to a marker that is reported, a scan does not depend on the argument list behind it. -/
theorem ScanRun.replaced {before more more' : List UInt8} (hclose : closeParen ∈ more)
    (hclose' : closeParen ∈ more') {offset : Int} {pos i : Nat} {found : List Match} {m : Match}
    (h : ScanRun marker (before ++ marker.items.toList ++ more) offset pos (.ok found))
    (hm : found[i]? = some m) (hplace : m.offset = offset + before.length) :
    ScanRun marker (before ++ marker.items.toList ++ more) offset before.length
        (.ok (found.drop i)) ∧
      ∀ r, ScanRun marker (before ++ marker.items.toList ++ more') offset before.length r →
        ScanRun marker (before ++ marker.items.toList ++ more') offset pos
          (r.map (found.take i ++ ·)) := by
  generalize hr : Except.ok found = r at h
  induction h generalizing found i with
  | done hnone =>
    cases hr
    simp at hm
  | fails hfirst hread => cases hr
  | @step pos p m₀ r hfirst hreports hrest ih =>
    cases r with
    | error e => cases hr
    | ok rest =>
      cases hr
      have hplace₀ := hreports.place
      cases i with
      | zero =>
        -- The run has come to the marker, and skips what stands before it in both lines.
        cases hm
        obtain rfl : p = before.length := by omega
        refine ⟨.step ⟨Nat.le_refl _, hfirst.2.1, fun q hq _ => hq⟩ hreports hrest, ?_⟩
        intro r hrun
        have hrun' := hrun.of_later hfirst.1 fun q hq hlt ho => by
          have hle := hfirst.2.2 q hq (occursAt_of_le (by omega) ho more)
          omega
        cases r <;> exact hrun'
      | succ i =>
        have hm : rest[i]? = some m := by simpa using hm
        obtain ⟨p', hp', _, hplace', _⟩ := hrest.covers.reported m (List.mem_of_getElem? hm)
        obtain rfl : p' = before.length := by omega
        have hend : p + marker.length + argumentLength ((before ++ marker.items.toList ++ more).drop
            (p + marker.length)) ≤ before.length := hp'
        have hdrop : ∀ more : List UInt8,
            (before ++ marker.items.toList ++ more).drop (p + marker.length) =
              before.drop (p + marker.length) ++ marker.items.toList ++ more := by
          intro more
          rw [List.append_assoc, List.drop_append_of_le_length (by omega), List.append_assoc]
        have hsize : argumentLength (before.drop (p + marker.length) ++ marker.items.toList ++
            more) ≤ (before.drop (p + marker.length)).length := by
          rw [List.length_drop, ← hdrop]
          omega
        obtain ⟨hlength, hread⟩ := read_before_marker hclose hclose' hsize
          (offset + (p + marker.length : Nat))
        rw [← hdrop, ← hdrop] at hlength hread
        have hreports' : Reports marker (before ++ marker.items.toList ++ more') offset p m₀ :=
          ⟨occursAt_of_le (by omega) hreports.occurs more', hplace₀, hreports.length,
            hread.trans hreports.outcome⟩
        have hresume : resumeAfter marker (before ++ marker.items.toList ++ more') p =
            resumeAfter marker (before ++ marker.items.toList ++ more) p := by
          rw [resumeAfter, hlength, resumeAfter]
        obtain ⟨hhere, hthere⟩ := ih hm rfl
        refine ⟨hhere, fun r hrun => ?_⟩
        have hnext := hthere r hrun
        rw [← hresume] at hnext
        have hstep := ScanRun.step (isFirst_of_le (by omega) hfirst more') hreports' hnext
        cases r <;> exact hstep

/-- What a match tells, wherever it stands. -/
inductive Reading
  /-- A label, and a count if one is given. -/
  | valid (label : String) (count : Option Nat)
  /-- No argument list, or one without a label. -/
  | malformed
  /-- A second argument that is no count. -/
  | invalidCount
  deriving Repr, DecidableEq

/-- What stands after a marker, without its places. -/
def Outcome.reading : Outcome → Reading
  | .valid args => .valid args.label.value (args.count.map Arg.value)
  | .malformed => .malformed
  | .invalidCount _ => .invalidCount

/-- What a match tells. -/
def Match.reading (m : Match) : Reading := m.outcome.reading

/-- What a match tells does not depend on its place. -/
theorem Match.reading_relocate (f : Int → Int) (m : Match) :
    (m.relocate f).reading = m.reading := by
  obtain ⟨offset, outcome, length⟩ := m
  cases outcome with
  | valid args =>
    obtain ⟨label, count, size⟩ := args
    cases count <;> rfl
  | malformed => rfl
  | invalidCount span => rfl

/-- Scanning a line tells the same wherever the line begins. -/
theorem exists_scanLine_at {n : Needle UInt8} {line : List UInt8} {offset : Int}
    {found : List Match} (h : scanLine n offset line = .ok found) (offset' : Int) :
    ∃ found', scanLine n offset' line = .ok found' ∧
      found'.map Match.reading = found.map Match.reading := by
  have hmoved := scanLine_add n offset (offset' - offset) line
  rw [h, show offset + (offset' - offset) = offset' by omega] at hmoved
  refine ⟨_, hmoved, ?_⟩
  rw [List.map_map]
  exact List.map_congr_left fun m _ => m.reading_relocate _

/-- A valid argument list has a label. -/
theorem ArgumentBytes.Means.isBlank_eq_false {a : ArgumentBytes} {start : Int} {args : Args}
    (h : a.Means start (.valid args)) : a.isBlank = false := by
  cases h <;> assumption

section Layout

variable {before tail : List UInt8} {a : ArgumentBytes}

/-- A marker stands behind what precedes it. -/
theorem occursAt_marker (before more : List UInt8) :
    OccursAt marker.items.toList (before ++ marker.items.toList ++ more) before.length := by
  rw [OccursAt, List.append_assoc, List.drop_left]
  exact List.prefix_append _ _

/-- What follows a marker. -/
theorem drop_marker (before more : List UInt8) :
    (before ++ marker.items.toList ++ more).drop (before.length + marker.length) = more :=
  List.drop_left' (by rw [List.length_append]; rfl)

/-- A marker with an argument list behind it. -/
theorem reports_written {offset : Int} {args : Args} (ha : a.WellFormed)
    (hmeans : a.Means (offset + (before.length + marker.length : Nat)) (.valid args)) :
    Reports marker (before ++ marker.items.toList ++ (a.write ++ tail)) offset before.length
      ⟨offset + before.length, .valid args, marker.length⟩ where
  occurs := occursAt_marker _ _
  place := rfl
  length := rfl
  outcome := by
    rw [drop_marker, Outcome.read, ArgumentBytes.read_write ha]
    exact hmeans.interpret_eq

/-- A scan goes on behind the argument list. -/
theorem drop_resumeAfter (ha : a.WellFormed) (hblank : a.isBlank = false) :
    (before ++ marker.items.toList ++ (a.write ++ tail)).drop
      (resumeAfter marker (before ++ marker.items.toList ++ (a.write ++ tail)) before.length) =
        tail := by
  have hlength := argumentLength_of_label (ArgumentBytes.read_write ha tail) hblank
  rw [resumeAfter, ← List.drop_drop, drop_marker, hlength]
  exact List.drop_left' a.length_write

/-- From a marker on, a scan reports the argument list behind it and scans what follows. -/
theorem exists_scanRun_written {offset : Int} {args : Args} (ha : a.WellFormed)
    (hmeans : a.Means (offset + (before.length + marker.length : Nat)) (.valid args)) :
    ∃ place, ScanRun marker (before ++ marker.items.toList ++ (a.write ++ tail)) offset
      before.length ((scanLine marker place tail).map
        (⟨offset + before.length, .valid args, marker.length⟩ :: ·)) := by
  have hrest := scanLine_run marker (before ++ marker.items.toList ++ (a.write ++ tail)) offset
    (resumeAfter marker (before ++ marker.items.toList ++ (a.write ++ tail)) before.length)
  rw [drop_resumeAfter ha hmeans.isBlank_eq_false] at hrest
  have hfirst : IsFirst marker.items.toList (before ++ marker.items.toList ++ (a.write ++ tail))
      before.length (some before.length) :=
    ⟨Nat.le_refl _, occursAt_marker _ _, fun q hq _ => hq⟩
  exact ⟨_, .step hfirst (reports_written ha hmeans) hrest⟩

end Layout

/-- A valid argument list behind a marker that a scan reports can be replaced by another one that
tells the same. All matches tell what they did, in the same order, and the one of the marker has the
arguments of the new list. -/
theorem scanLine_replaced {before tail : List UInt8} {a a' : ArgumentBytes} {offset : Int} {i : Nat}
    {found : List Match} {m : Match} {args args' : Args} (ha : a.WellFormed) (ha' : a'.WellFormed)
    (hmeans : a.Means (offset + (before.length + marker.length : Nat)) (.valid args))
    (hmeans' : a'.Means (offset + (before.length + marker.length : Nat)) (.valid args'))
    (htells : (Outcome.valid args').reading = (Outcome.valid args).reading)
    (hscan : scanLine marker offset (before ++ marker.items.toList ++ (a.write ++ tail)) =
      .ok found)
    (hm : found[i]? = some m) (hplace : m.offset = offset + before.length) :
    ∃ found', scanLine marker offset (before ++ marker.items.toList ++ (a'.write ++ tail)) =
        .ok found' ∧
      found'.map Match.reading = found.map Match.reading ∧
      found'[i]? = some ⟨m.offset, .valid args', marker.length⟩ := by
  have hclose : ∀ a : ArgumentBytes, closeParen ∈ a.write ++ tail := by
    simp [ArgumentBytes.write]
  have hrun := scanLine_run_zero marker (before ++ marker.items.toList ++ (a.write ++ tail)) offset
  rw [hscan] at hrun
  obtain ⟨hhere, hthere⟩ := hrun.replaced (hclose a) (hclose a') hm hplace
  obtain ⟨place, hwritten⟩ := @exists_scanRun_written before tail a offset args ha hmeans
  obtain ⟨place', hwritten'⟩ := @exists_scanRun_written before tail a' offset args' ha' hmeans'
  have hwhole := hhere.unique hwritten
  cases hrest : scanLine marker place tail with
  | error e =>
    rw [hrest] at hwhole
    cases hwhole
  | ok rest =>
    rw [hrest] at hwhole
    have hdrop : found.drop i = ⟨offset + before.length, .valid args, marker.length⟩ :: rest :=
      Except.ok.inj hwhole
    -- The other line goes on with the same bytes, at another place.
    obtain ⟨rest', hrest', hsame⟩ := exists_scanLine_at hrest place'
    rw [hrest'] at hwritten'
    refine ⟨_, (scanLine_run_zero marker _ offset).unique (hthere _ hwritten'), ?_, ?_⟩
    · conv => rhs; rw [← List.take_append_drop i found, hdrop]
      simp only [List.map_append, List.map_cons, hsame, Match.reading, htells]
    · have hi : (found.take i).length = i := by
        have hlt := (List.getElem?_eq_some_iff.mp hm).1
        rw [List.length_take]
        omega
      rw [List.getElem?_append_right (by omega), hi, Nat.sub_self, hplace]
      rfl

end LabelTally.Comment
