import LabelTally.Proofs.Comment.Scan
import LabelTally.Proofs.Text.Terminators

/-!
# Matches at other places

What a scan tells of a line does not depend on where the line begins, apart from the places that it
names, which all move with the line. Since a file is scanned line by line, a file that is put behind
whole lines has the same matches behind those of these lines.
-/

namespace LabelTally

/-- The span between the new places of its ends. -/
def Span.relocate (f : Int → Int) (s : Span) : Span := ⟨f s.start, f s.stop⟩

namespace Comment

open Decimal Occurrence Text

/-- The argument with its span at a new place. -/
def Arg.relocate {α : Type} (f : Int → Int) (a : Arg α) : Arg α :=
  { a with span := a.span.relocate f }

/-- The arguments with their spans at new places. -/
def Args.relocate (f : Int → Int) (a : Args) : Args :=
  { a with label := a.label.relocate f, count := a.count.map (Arg.relocate f) }

/-- What stands after a marker, with its spans at new places. -/
def Outcome.relocate (f : Int → Int) : Outcome → Outcome
  | .valid args => .valid (args.relocate f)
  | .malformed => .malformed
  | .invalidCount span => .invalidCount (span.relocate f)

/-- The match with every position in it at its new place. -/
def Match.relocate (f : Int → Int) (m : Match) : Match :=
  { m with offset := f m.offset, outcome := m.outcome.relocate f }

/-- The label moves with the argument list. -/
theorem ArgumentBytes.labelArg_add (a : ArgumentBytes) (start d : Int) :
    a.labelArg (start + d) = (a.labelArg start).relocate (· + d) := by
  simp only [labelArg, Arg.relocate, Span.relocate]
  congr 2 <;> omega

/-- The second argument moves with the argument list. -/
theorem ArgumentBytes.countSpan_add (a : ArgumentBytes) (c : CountBytes) (start d : Int) :
    a.countSpan c (start + d) = (a.countSpan c start).relocate (· + d) := by
  simp only [countSpan, Span.relocate]
  congr 1 <;> omega

/-- An argument list means the same at another place. -/
theorem ArgumentBytes.Means.relocate {a : ArgumentBytes} {start : Int} {o : Outcome}
    (h : a.Means start o) (d : Int) : a.Means (start + d) (o.relocate (· + d)) := by
  cases h with
  | blank hblank => exact .blank hblank
  | plain hblank hcount =>
    have hmeans : a.Means (start + d) _ := .plain hblank hcount
    rwa [a.labelArg_add] at hmeans
  | counted c n hblank hcount hread =>
    have hmeans : a.Means (start + d) _ := .counted c n hblank hcount hread
    rwa [a.labelArg_add, a.countSpan_add] at hmeans
  | refused c hblank hcount hread =>
    have hmeans : a.Means (start + d) _ := .refused c hblank hcount hread
    rwa [a.countSpan_add] at hmeans

/-- What is read moves with the bytes that it is read from. -/
theorem Outcome.read_add (bytes : List UInt8) (start d : Int) :
    Outcome.read bytes (start + d) =
      (Outcome.read bytes start).map (Outcome.relocate (· + d)) := by
  unfold Outcome.read
  cases hread : ArgumentBytes.read bytes with
  | none => rfl
  | some a =>
    dsimp only
    rcases a.interpret_spec start with ⟨o, ho, hmeans⟩ | ⟨c, e, hblank, hcount, he, hfails⟩
    · rw [ho, (hmeans.relocate d).interpret_eq]
      rfl
    · rw [hfails, ArgumentBytes.interpret_eq_error hblank hcount he]
      rfl

/-- A marker is reported at its place in the line, wherever the line begins. -/
theorem Reports.relocate {n : Needle UInt8} {line : List UInt8} {offset : Int} {p : Nat} {m : Match}
    (h : Reports n line offset p m) (d : Int) :
    Reports n line (offset + d) p (m.relocate (· + d)) where
  occurs := h.occurs
  place := by
    have hplace := h.place
    simp only [Match.relocate]
    omega
  length := h.length
  outcome := by
    have hstart : offset + d + (p + n.length : Nat) = offset + (p + n.length : Nat) + d := by omega
    rw [hstart, Outcome.read_add, h.outcome]
    rfl

/-- A run gives the same matches wherever the line begins, at their new places. -/
theorem ScanRun.relocate {n : Needle UInt8} {line : List UInt8} {offset : Int} {pos : Nat}
    {r : Except TooManyDigits (List Match)} (h : ScanRun n line offset pos r) (d : Int) :
    ScanRun n line (offset + d) pos (r.map (List.map (Match.relocate (· + d)))) := by
  induction h with
  | done hnone => exact .done hnone
  | @fails pos p e hfirst hread =>
    refine .fails hfirst ?_
    have hstart : offset + d + (p + n.length : Nat) = offset + (p + n.length : Nat) + d := by omega
    rw [hstart, Outcome.read_add, hread]
    rfl
  | @step pos p m r hfirst hreports hrest ih =>
    have hstep := ScanRun.step hfirst (hreports.relocate d) ih
    cases r <;> exact hstep

/-- The matches of a line move with the line. -/
theorem scanLine_add (n : Needle UInt8) (offset d : Int) (line : List UInt8) :
    scanLine n (offset + d) line =
      (scanLine n offset line).map (List.map (Match.relocate (· + d))) :=
  (scanLine_run_zero n line (offset + d)).unique ((scanLine_run_zero n line offset).relocate d)

/-- The matches of lines behind others are those of the first lines and of the others. -/
theorem scanLines_append (n : Needle UInt8) (ls others : List (Nat × List UInt8)) :
    scanLines n (ls ++ others) =
      (scanLines n ls >>= fun here => (here ++ ·) <$> scanLines n others) := by
  induction ls with
  | nil =>
    rw [List.nil_append]
    cases scanLines n others <;> rfl
  | cons l rest ih =>
    rw [List.cons_append, scanLines_cons, scanLines_cons, ih]
    cases scanLine n l.1 l.2 with
    | error e => rfl
    | ok first =>
      cases scanLines n rest with
      | error e => rfl
      | ok here =>
        cases scanLines n others with
        | error e => rfl
        | ok there => exact congrArg Except.ok (List.append_assoc first here there).symm

/-- If the matches of a line and those of the lines behind it are changed in one way, all are. -/
theorem map_bind_append (g : Match → Match) (first rest : Except TooManyDigits (List Match)) :
    (first.map (List.map g) >>= fun here => (here ++ ·) <$> rest.map (List.map g)) =
      (first >>= fun here => (here ++ ·) <$> rest).map (List.map g) := by
  cases first with
  | error e => rfl
  | ok here =>
    cases rest with
    | error e => rfl
    | ok there => exact congrArg Except.ok List.map_append.symm

/-- The matches of lines move with the lines. -/
theorem scanLines_withOffsets_add (n : Needle UInt8) (k d : Nat) (ls : List (List UInt8)) :
    scanLines n (withOffsets (k + d) ls) =
      (scanLines n (withOffsets k ls)).map (List.map (Match.relocate (· + d))) := by
  induction ls generalizing k with
  | nil => rfl
  | cons line rest ih =>
    have hnext : k + d + line.length = k + line.length + d := by omega
    rw [withOffsets, withOffsets, scanLines_cons, scanLines_cons, hnext, ih, Int.natCast_add,
      scanLine_add, map_bind_append]

/-- If no line stands across two parts of a file, the matches of the second part follow those of the
first, moved by its length. -/
theorem scan_append_of_lines (n : Needle UInt8) {first second : List UInt8}
    (h : lines (first ++ second) = lines first ++ lines second) :
    scan n (first ++ second) = (do
      let here ← scan n first
      let there ← scan n second
      return here ++ there.map (Match.relocate (· + first.length))) := by
  have hlength : 0 + (lines first).flatten.length = 0 + first.length := by rw [flatten_lines]
  rw [scan_eq_scanLines, scan_eq_scanLines, scan_eq_scanLines, h, withOffsets_append, hlength,
    scanLines_append, scanLines_withOffsets_add]
  cases scanLines n (withOffsets 0 (lines first)) with
  | error e => rfl
  | ok here => cases scanLines n (withOffsets 0 (lines second)) <;> rfl

/-- A file whose first part ends with a line feed has the matches of this part and then, moved by
its length, those of the rest. Both parts are scanned if the file is. -/
theorem scan_append (n : Needle UInt8) {first : List UInt8}
    (h : first = [] ∨ first.getLast? = some lineFeed) (second : List UInt8) :
    scan n (first ++ second) = (do
        let here ← scan n first
        let there ← scan n second
        return here ++ there.map (Match.relocate (· + first.length))) ∧
      (¬MeetsOverlongCount n (first ++ second) →
        ∃ here there, scan n first = .ok here ∧ scan n second = .ok there ∧
          scan n (first ++ second) =
            .ok (here ++ there.map (Match.relocate (· + first.length)))) := by
  have hscan := scan_append_of_lines n (lines_append_of_lineFeed h second)
  refine ⟨hscan, fun hfits => ?_⟩
  rw [← scan_eq_error_iff] at hfits
  rw [hscan] at hfits ⊢
  cases hhere : scan n first with
  | error e => exact absurd ⟨e, by rw [hhere]; rfl⟩ hfits
  | ok here =>
    cases hthere : scan n second with
    | error e => exact absurd ⟨e, by rw [hhere, hthere]; rfl⟩ hfits
    | ok there => exact ⟨here, there, rfl, rfl, rfl⟩

/-- A bad count in the first of two lines and a good one in the second. -/
theorem scan_append_bad_count :
    [67, 79, 68, 69, 83, 89, 78, 67, 40, 97, 44, 98, 41, 13, 10].getLast? = some lineFeed ∧
      ¬MeetsOverlongCount marker ([67, 79, 68, 69, 83, 89, 78, 67, 40, 97, 44, 98, 41, 13, 10] ++
        [32, 67, 79, 68, 69, 83, 89, 78, 67, 40, 97, 44, 32, 50, 41]) ∧
      ∃ here there,
        scan marker [67, 79, 68, 69, 83, 89, 78, 67, 40, 97, 44, 98, 41, 13, 10] = .ok here ∧
        scan marker [32, 67, 79, 68, 69, 83, 89, 78, 67, 40, 97, 44, 32, 50, 41] = .ok there ∧
        here ++ there.map (Match.relocate (· + 15)) =
          [⟨0, .invalidCount ⟨11, 12⟩, 8⟩,
            ⟨16, .valid ⟨⟨"a", "a", 25, 26⟩, some ⟨2, "2", 28, 29⟩, 6⟩, 8⟩] := by
  have hlast : [67, 79, 68, 69, 83, 89, 78, 67, 40, 97, 44, 98, 41, 13, 10].getLast? =
      some lineFeed := rfl
  have hscan : scan marker ([67, 79, 68, 69, 83, 89, 78, 67, 40, 97, 44, 98, 41, 13, 10] ++
      [32, 67, 79, 68, 69, 83, 89, 78, 67, 40, 97, 44, 32, 50, 41]) =
        .ok [⟨0, .invalidCount ⟨11, 12⟩, 8⟩,
          ⟨16, .valid ⟨⟨"a", "a", 25, 26⟩, some ⟨2, "2", 28, 29⟩, 6⟩, 8⟩] := by cbv
  have hfits : ¬MeetsOverlongCount marker ([67, 79, 68, 69, 83, 89, 78, 67, 40, 97, 44, 98, 41, 13,
      10] ++ [32, 67, 79, 68, 69, 83, 89, 78, 67, 40, 97, 44, 32, 50, 41]) := by
    rw [← scan_eq_error_iff, hscan]
    simp
  obtain ⟨here, there, hhere, hthere, hwhole⟩ := (scan_append marker (.inr hlast)
    [32, 67, 79, 68, 69, 83, 89, 78, 67, 40, 97, 44, 32, 50, 41]).2 hfits
  exact ⟨hlast, hfits, here, there, hhere, hthere, Except.ok.inj (hwhole.symm.trans hscan)⟩

end Comment

end LabelTally
