import LabelTally.Proofs.Comment.Scan
import LabelTally.Report.Locate

/-!
# Spans are exact to the byte

The spans of a match are positions in the file that its line comes from: the bytes between them are
the marker, the parentheses and the arguments that the match tells of. What an argument list takes
from the file is laid out once, part by part, and every span is a stretch of that layout.
-/

namespace LabelTally

/-- The bytes of a file within a span, if the span lies in the file. -/
def Span.cut? (s : Span) (data : List UInt8) : Option (List UInt8) :=
  if 0 ≤ s.start ∧ s.start ≤ s.stop ∧ s.stop ≤ data.length then
    some (Report.slice data s.start.toNat s.stop.toNat)
  else none

/-- A part of a file is what lies between its ends. -/
theorem Span.cut?_eq_some {s : Span} {data : List UInt8} (before part after : List UInt8)
    (hdata : data = before ++ part ++ after) (hstart : s.start = before.length)
    (hstop : s.stop = before.length + part.length) : s.cut? data = some part := by
  have hlength : data.length = before.length + part.length + after.length := by
    rw [hdata, List.length_append, List.length_append]
  rw [cut?, if_pos (by omega), Report.slice, hstart, hstop, Int.toNat_natCast,
    show ((before.length : Int) + part.length).toNat = (before ++ part).length by
      rw [List.length_append]; omega,
    hdata, List.take_left, List.drop_left]

namespace Comment

open Decimal Occurrence Text

section Layout

variable {data before after : List UInt8} {a : ArgumentBytes}
  (hdata : data = before ++ a.write ++ after)
include hdata

/-- An argument list begins with its opening parenthesis. -/
theorem cut?_openParen :
    (Span.mk before.length (before.length + 1)).cut? data = some [openParen] := by
  refine Span.cut?_eq_some before [openParen] (a.write.tail ++ after) ?_ rfl rfl
  rw [hdata]
  simp [ArgumentBytes.write]

/-- It ends with its closing parenthesis. -/
theorem cut?_closeParen :
    (Span.mk (before.length + a.size - 1) (before.length + a.size)).cut? data =
      some [closeParen] := by
  obtain ⟨inner, hwrite⟩ : ∃ inner, a.write = inner ++ [closeParen] := ⟨_, rfl⟩
  have hlength := congrArg List.length hwrite
  rw [a.length_write, List.length_append, List.length_singleton] at hlength
  refine Span.cut?_eq_some (before ++ inner) [closeParen] after ?_ ?_ ?_
  · rw [hdata, hwrite]
    simp only [List.append_assoc]
  · rw [List.length_append]
    simp only
    omega
  · rw [List.length_append, List.length_singleton]
    simp only
    omega

/-- The label lies after the opening parenthesis. -/
theorem cut?_label : (a.labelArg before.length).span.cut? data = some a.label := by
  obtain ⟨behind, hwrite⟩ : ∃ behind, a.write = openParen :: a.label ++ behind ++ [closeParen] :=
    ⟨_, rfl⟩
  refine Span.cut?_eq_some (before ++ [openParen]) a.label (behind ++ closeParen :: after) ?_ ?_ ?_
  · rw [hdata, hwrite]
    simp
  · rw [List.length_append, List.length_singleton]
    rfl
  · rw [List.length_append, List.length_singleton]
    rfl

variable {c : CountBytes} (hcount : a.count = some c)
include hcount

/-- The bytes before a second argument. -/
theorem eq_append_count :
    data = before ++ openParen :: a.label ++ comma :: (if c.spaced then [space] else []) ++ c.raw ++
      closeParen :: after := by
  rw [hdata]
  simp [ArgumentBytes.write, CountBytes.write, hcount]

/-- The second argument lies after the comma and its space. -/
theorem cut?_count : (a.countSpan c before.length).cut? data = some c.raw := by
  refine Span.cut?_eq_some _ c.raw _ (eq_append_count hdata hcount) ?_ ?_
  all_goals
    simp only [ArgumentBytes.countSpan, List.length_append, List.length_cons]
    split <;> simp only [List.length_cons, List.length_nil] <;> omega

/-- A closing parenthesis follows the second argument. -/
theorem cut?_after_count :
    (Span.mk (a.countSpan c before.length).stop
      ((a.countSpan c before.length).stop + 1)).cut? data = some [closeParen] := by
  refine Span.cut?_eq_some (before ++ openParen :: a.label ++
    comma :: (if c.spaced then [space] else []) ++ c.raw) [closeParen] after ?_ ?_ ?_
  · rw [eq_append_count hdata hcount]
    simp
  all_goals
    simp only [ArgumentBytes.countSpan, List.length_append, List.length_cons, List.length_nil]
    split <;> simp only [List.length_cons, List.length_nil] <;> omega

end Layout

/-- The argument is read from the bytes of its span, which lies within another. -/
structure Arg.IsReadFrom {α : Type} (a : Arg α) (data : List UInt8) (whole : Span) : Prop where
  /-- Its text is what the bytes of its span decode to. -/
  text : ∃ raw, a.span.cut? data = some raw ∧ a.text = String.ofList (Utf8.decode raw)
  /-- It begins within the other span. -/
  start : whole.start ≤ a.span.start
  /-- It ends within the other span. -/
  stop : a.span.stop ≤ whole.stop

/-- The spans and values of a valid match are those of the file. -/
structure Match.IsExactValid (m : Match) (data : List UInt8) (args : Args) : Prop where
  /-- The opening parenthesis follows the marker. -/
  opens : (Span.mk (m.offset + 8) (m.offset + 9)).cut? data = some [openParen]
  /-- The match ends with the closing parenthesis. -/
  closes : (Span.mk (m.span.stop - 1) m.span.stop).cut? data = some [closeParen]
  /-- The label is read from its span. -/
  label : args.label.IsReadFrom data m.span
  /-- The value of the label is its text without blanks around it. -/
  label_value : args.label.value = args.label.trimmed
  /-- The label is not empty. -/
  label_ne : args.label.value ≠ ""
  /-- The label has neither comma nor closing parenthesis. -/
  label_chars : ∀ c ∈ args.label.value.toList, c ≠ ',' ∧ c ≠ ')'
  /-- The count, if there is one, is read from its span behind the label, and is a run of digits
  that denotes its value. -/
  count : ∀ count, args.count = some count →
    count.IsReadFrom data m.span ∧ args.label.span.stop ≤ count.span.start ∧
      isDigitRun count.trimmed.toList = true ∧ digitsValue count.trimmed.toList = count.value ∧
      count.value ≤ maxCount

/-- The span of a match with a bad count holds what is no count, up to a closing parenthesis. -/
structure Match.IsExactInvalid (m : Match) (data : List UInt8) : Prop where
  /-- The bytes of the span decode to no run of digits that denotes a count. -/
  text : ∃ raw, m.errorSpan.cut? data = some raw ∧
    ¬(isDigitRun (trim (Utf8.decode raw)) = true ∧ digitsValue (trim (Utf8.decode raw)) ≤ maxCount)
  /-- A closing parenthesis follows. -/
  closes : (Span.mk m.errorSpan.stop (m.errorSpan.stop + 1)).cut? data = some [closeParen]

/-- The spans of a match are those of the file. -/
structure Match.IsExact (m : Match) (data : List UInt8) : Prop where
  /-- The match begins with the marker. -/
  begins : (Span.mk m.offset (m.offset + 8)).cut? data = some marker.items.toList
  /-- The spans of a valid match are exact. -/
  valid : ∀ args, m.outcome = .valid args → m.IsExactValid data args
  /-- The span of a bad count is exact. -/
  invalid : ∀ span, m.outcome = .invalidCount span → m.IsExactInvalid data

/-- Where a match of a line stands in the file. -/
theorem Reports.exists_layout {n : Needle UInt8} {line before : List UInt8} {p : Nat} {m : Match}
    (h : Reports n line before.length p m) (after : List UInt8) :
    ∃ start, before ++ line ++ after =
        start ++ n.items.toList ++ (line.drop (p + n.length) ++ after) ∧
      m.offset = start.length := by
  obtain ⟨rest, hrest⟩ := h.occurs
  have hle := n.add_length_le h.occurs
  have hdrop : line.drop (p + n.length) = rest := by
    have hlen : n.items.toList.length = n.length := Array.length_toList
    rw [← List.drop_drop, ← hrest, List.drop_left' hlen]
  refine ⟨before ++ line.take p, ?_, ?_⟩
  · calc before ++ line ++ after
        = before ++ (line.take p ++ line.drop p) ++ after := by rw [List.take_append_drop]
      _ = before ++ line.take p ++ n.items.toList ++ (line.drop (p + n.length) ++ after) := by
        rw [← hrest, hdrop]
        simp only [List.append_assoc]
  · rw [h.place, List.length_append, List.length_take]
    omega

/-- A label that is read from a file lies within its match. -/
theorem isReadFrom_labelArg {data before after : List UInt8} {a : ArgumentBytes}
    (hdata : data = before ++ a.write ++ after) {whole : Span}
    (hstart : whole.start ≤ before.length) (hstop : whole.stop = before.length + a.size) :
    (a.labelArg before.length).IsReadFrom data whole where
  text := ⟨a.label, cut?_label hdata, rfl⟩
  start := by
    simp only [ArgumentBytes.labelArg]
    omega
  stop := by
    rw [hstop]
    simp only [ArgumentBytes.labelArg, ArgumentBytes.size]
    omega

/-- The text of an argument without its blanks, from the characters of the text. -/
theorem trimmed_ofList {α : Type} (value : α) (cs : List Char) (span : Span) :
    (Arg.mk value (String.ofList cs) span).trimmed = String.ofList (trim cs) := by
  rw [Arg.trimmed, String.toList_ofList]

section Meaning

variable {data before after : List UInt8} {a : ArgumentBytes} {m : Match}
  (hdata : data = before ++ a.write ++ after) (hwf : a.WellFormed)
  (hoffset : m.offset + 8 = before.length) (hlength : m.markerLength = 8)
include hdata hwf hoffset hlength

/-- A valid match with the arguments that stand in the file is exact. -/
theorem isExactValid_of_means {args : Args} (houtcome : m.outcome = .valid args)
    (hmeans : a.Means before.length (.valid args)) : m.IsExactValid data args := by
  have hspan : m.span = ⟨m.offset, m.offset + 8 + args.length⟩ := by
    simp only [Match.span, houtcome, hlength]
    rfl
  have hlabel : ∀ args' : Args, args'.label = a.labelArg before.length →
      args'.label.value = args'.label.trimmed ∧
        ∀ c ∈ args'.label.value.toList, c ≠ ',' ∧ c ≠ ')' := by
    intro args' he
    rw [he, ArgumentBytes.labelArg, trimmed_ofList]
    refine ⟨rfl, fun c hc => hwf.label_chars ?_⟩
    simpa only [String.toList_ofList] using hc
  have hnonempty : a.isBlank = false → String.ofList (trim (Utf8.decode a.label)) ≠ "" := by
    intro hblank he
    have hnil : trim (Utf8.decode a.label) = [] := by
      simpa only [String.toList_ofList, String.toList_empty] using congrArg String.toList he
    rw [ArgumentBytes.isBlank, hnil] at hblank
    cases hblank
  have hopens : (Span.mk (m.offset + 8) (m.offset + 9)).cut? data = some [openParen] := by
    rw [show m.offset + 9 = m.offset + 8 + 1 by omega, hoffset]
    exact cut?_openParen hdata
  cases hmeans with
  | plain hblank hcount =>
    have hstop : m.span.stop = before.length + a.size := by rw [hspan, hoffset]
    refine ⟨hopens, ?_, ?_, (hlabel _ rfl).1, hnonempty hblank, (hlabel _ rfl).2, ?_⟩
    · rw [hstop]
      exact cut?_closeParen hdata
    · exact isReadFrom_labelArg hdata (by rw [hspan]; simp only; omega) hstop
    · rintro count ⟨⟩
  | counted c n hblank hcount hread =>
    obtain ⟨hrun, _, hvalue, hmax⟩ := readCount_eq_some_iff.mp hread
    have hstop : m.span.stop = before.length + a.size := by rw [hspan, hoffset]
    have hstart : m.span.start ≤ before.length := by
      rw [hspan]
      simp only
      omega
    refine ⟨hopens, ?_, ?_, (hlabel _ rfl).1, hnonempty hblank, (hlabel _ rfl).2, ?_⟩
    · rw [hstop]
      exact cut?_closeParen hdata
    · exact isReadFrom_labelArg hdata hstart hstop
    · rintro count ⟨⟩
      refine ⟨⟨⟨c.raw, cut?_count hdata hcount, rfl⟩, ?_, ?_⟩, ?_, ?_, ?_, hmax⟩
      · refine Int.le_trans hstart ?_
        simp only [ArgumentBytes.countSpan]
        split <;> omega
      · rw [hstop]
        simp only [ArgumentBytes.countSpan, ArgumentBytes.size, hcount, CountBytes.size]
        split <;> omega
      · simp only [ArgumentBytes.countSpan, ArgumentBytes.labelArg]
        split <;> omega
      · rw [trimmed_ofList, String.toList_ofList]
        exact hrun
      · rw [trimmed_ofList, String.toList_ofList]
        exact hvalue

omit hwf hoffset hlength in
/-- A match with a bad count that stands in the file is exact. -/
theorem isExactInvalid_of_means {span : Span} (houtcome : m.outcome = .invalidCount span)
    (hmeans : a.Means before.length (.invalidCount span)) : m.IsExactInvalid data := by
  have hspan : m.errorSpan = span := by simp only [Match.errorSpan, houtcome]
  cases hmeans with
  | refused c hblank hcount hread =>
    refine ⟨⟨c.raw, ?_, ?_⟩, ?_⟩
    · rw [hspan]
      exact cut?_count hdata hcount
    · rintro ⟨hrun, hvalue⟩
      rcases readCount_eq_none_iff.mp hread with hno | ⟨_, hbig⟩
      · rw [hno] at hrun
        cases hrun
      · omega
    · rw [hspan]
      exact cut?_after_count hdata hcount

end Meaning

/-- The spans of a match that a scan of a line reports are those of the file. -/
theorem Reports.isExact {line before : List UInt8} {p : Nat} {m : Match}
    (h : Reports marker line before.length p m) (after : List UInt8) :
    m.IsExact (before ++ line ++ after) := by
  obtain ⟨start, hdata, hoffset⟩ := h.exists_layout after
  have hlength : m.markerLength = 8 := h.length
  have hbefore : (start ++ marker.items.toList).length = start.length + 8 := by
    rw [List.length_append]
    rfl
  have hread := h.outcome
  rw [show (before.length : Int) + (p + marker.length : Nat) =
      ((start ++ marker.items.toList).length : Nat) by
    have hplace := h.place
    have hsize : marker.length = 8 := rfl
    omega] at hread
  -- The argument list of the match, if it has one, stands right behind the marker.
  have hlayout : ∀ o, m.outcome = o → o ≠ .malformed →
      ∃ (a : ArgumentBytes) (tail : List UInt8), a.WellFormed ∧
      before ++ line ++ after = (start ++ marker.items.toList) ++ a.write ++ tail ∧
      a.Means (start ++ marker.items.toList).length o := by
    intro o ho hne
    rw [ho] at hread
    rcases Outcome.read_eq_ok hread with ⟨_, hmalformed⟩ | ⟨a, ha, hmeans⟩
    · exact absurd hmalformed hne
    · obtain ⟨hwf, tail, htail⟩ := ArgumentBytes.read_eq_some ha
      refine ⟨a, tail ++ after, hwf, ?_, hmeans⟩
      rw [hdata, htail]
      simp only [List.append_assoc]
  refine ⟨?_, fun args ho => ?_, fun span ho => ?_⟩
  · exact Span.cut?_eq_some start _ _ hdata hoffset (by rw [hoffset]; rfl)
  · obtain ⟨a, tail, hwf, hdata, hmeans⟩ := hlayout _ ho (by simp)
    exact isExactValid_of_means hdata hwf (by omega) hlength ho hmeans
  · obtain ⟨a, tail, hwf, hdata, hmeans⟩ := hlayout _ ho (by simp)
    exact isExactInvalid_of_means hdata ho hmeans

/-- The spans of a match in a line of a file are those of the file. -/
theorem Reports.isExact_of_mem_lines {data : List UInt8} {l : Nat × List UInt8} {p : Nat}
    {m : Match} (h : Reports marker l.2 l.1 p m) (hl : l ∈ withOffsets 0 (lines data)) :
    m.IsExact data := by
  obtain ⟨before, after, hflat, hoffset⟩ := mem_withOffsets hl
  rw [flatten_lines] at hflat
  rw [hoffset, Nat.zero_add] at h
  rw [hflat]
  exact h.isExact after

/-- Every match in a line of a file has the spans of its parts in the file. -/
theorem isExact_of_mem_scanLine {data : List UInt8} {l : Nat × List UInt8}
    (hl : l ∈ markerLines marker data) {found : List Match}
    (hscan : scanLine marker l.1 l.2 = .ok found) {m : Match} (hm : m ∈ found) :
    m.IsExact data := by
  obtain ⟨p, hreports⟩ := exists_reports_of_scanLine hscan m hm
  exact hreports.isExact_of_mem_lines (mem_markerLines.mp hl).1

/-- A label and a count behind other text, in the second line of a file: `x`, a carriage return and
a line feed, then `é CODESYNC( é, 03)`. -/
theorem isExact_behind_multibyte_text :
    (Match.mk 6 (.valid ⟨⟨"é", " é", 15, 18⟩, some ⟨3, "03", 20, 22⟩, 9⟩) 8).IsExact
      [120, 13, 10, 195, 169, 32, 67, 79, 68, 69, 83, 89, 78, 67, 40, 32, 195, 169, 44, 32, 48, 51,
        41] := by
  have hlines : markerLines marker [120, 13, 10, 195, 169, 32, 67, 79, 68, 69, 83, 89, 78, 67, 40,
      32, 195, 169, 44, 32, 48, 51, 41] = [(3, [195, 169, 32, 67, 79, 68, 69, 83, 89, 78, 67, 40,
      32, 195, 169, 44, 32, 48, 51, 41])] := by cbv
  have hscan : scanLine marker (3 : Nat) [195, 169, 32, 67, 79, 68, 69, 83, 89, 78, 67, 40, 32, 195,
      169, 44, 32, 48, 51, 41] =
        .ok [⟨6, .valid ⟨⟨"é", " é", 15, 18⟩, some ⟨3, "03", 20, 22⟩, 9⟩, 8⟩] := by cbv
  exact isExact_of_mem_scanLine (hlines ▸ List.mem_singleton_self _) hscan
    (List.mem_singleton_self _)

end Comment

end LabelTally
