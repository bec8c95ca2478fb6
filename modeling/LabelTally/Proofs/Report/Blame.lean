import LabelTally.Proofs.Comment.Spans
import LabelTally.Proofs.Report.Sources

/-!
# Blamed stretches are underlined exactly

A finding points at a match, at its label, at its count, or at what stands in place of a count.
Each of these lies in the body of its line, beside bytes below 128, so the line is decoded in the
same parts as the file, and what is underlined is what the bytes of the stretch decode to.
-/

namespace LabelTally.Comment

open Occurrence Text

/-- The stretches of a match that a finding can point at. -/
inductive Match.Blames (m : Match) : Span → Prop
  /-- The whole match. -/
  | whole : m.Blames m.span
  /-- The label of a valid match. -/
  | label {args : Args} (h : m.outcome = .valid args) : m.Blames args.label.span
  /-- The count of a valid match. -/
  | count {args : Args} {count : Arg Nat} (h : m.outcome = .valid args)
    (hcount : args.count = some count) : m.Blames count.span
  /-- What stands in place of a count. -/
  | badCount {span : Span} (h : m.outcome = .invalidCount span) : m.Blames span

/-- The bytes of a line that begins at an offset, up to the end of a match: a marker, and the
argument list if one is read. -/
inductive Match.Stands (m : Match) (offset : Int) (left right : List UInt8) : List UInt8 → Prop
  /-- No argument list is read. -/
  | bare (hplace : m.offset = offset + left.length) (houtcome : m.outcome = .malformed) :
    m.Stands offset left right (left ++ marker.items.toList ++ right)
  /-- An argument list is read and has its meaning. -/
  | listed (a : ArgumentBytes) (hplace : m.offset = offset + left.length)
    (hmeans : a.Means (offset + left.length + 8) m.outcome) :
    m.Stands offset left right (left ++ marker.items.toList ++ a.write ++ right)

/-- Where a match stands is not nothing. -/
theorem Match.Stands.ne_nil {m : Match} {offset : Int} {left right body : List UInt8}
    (h : m.Stands offset left right body) : body ≠ [] := by
  cases h with
  | bare hplace houtcome => simp [marker]
  | listed a hplace hmeans => simp [marker]

/-- The label stands behind the opening parenthesis, and a comma or the closing parenthesis follows
it. -/
theorem ArgumentBytes.exists_write_label (a : ArgumentBytes) :
    ∃ stop behind, (stop = comma ∨ stop = closeParen) ∧
      a.write = [openParen] ++ a.label ++ stop :: behind := by
  cases hcount : a.count with
  | none => exact ⟨closeParen, [], Or.inr rfl, by simp [write, hcount]⟩
  | some c =>
    exact ⟨comma, (if c.spaced then [space] else []) ++ c.raw ++ [closeParen], Or.inl rfl,
      by simp [write, CountBytes.write, hcount]⟩

/-- A second argument stands behind a comma or a space, and the closing parenthesis follows it. -/
theorem ArgumentBytes.exists_write_count {a : ArgumentBytes} {c : CountBytes}
    (hcount : a.count = some c) (start : Int) :
    ∃ ahead stop, (stop = comma ∨ stop = space) ∧
      a.write = ahead ++ [stop] ++ c.raw ++ [closeParen] ∧
      (a.countSpan c start).start = start + (ahead ++ [stop]).length := by
  cases hspaced : c.spaced with
  | false =>
    refine ⟨openParen :: a.label, comma, Or.inl rfl, ?_, ?_⟩
    · simp [write, CountBytes.write, hcount, hspaced]
    · simp only [countSpan, hspaced, List.length_append, List.length_cons, List.length_nil]
      simp only [Bool.false_eq_true, if_false]
      omega
  | true =>
    refine ⟨openParen :: a.label ++ [comma], space, Or.inr rfl, ?_, ?_⟩
    · simp [write, CountBytes.write, hcount, hspaced]
    · simp only [countSpan, hspaced, List.length_append, List.length_cons, List.length_nil]
      simp only [if_true]
      omega

/-- A match stands in the body of its line. -/
theorem Reports.exists_stands {line : List UInt8} {offset : Int} {p : Nat} {m : Match}
    (h : Reports marker line offset p m) (hending : IsEnding (lineEnding line)) :
    ∃ left right, m.Stands offset left right (lineBody line) := by
  obtain ⟨rest, hrest⟩ := h.occurs
  have hbound := marker.add_length_le h.occurs
  have hdrop : line.drop (p + marker.length) = rest := by
    rw [← List.drop_drop, ← hrest]
    exact List.drop_left' rfl
  have hline : line.take p ++ marker.items.toList ++ rest = line := by
    rw [List.append_assoc, hrest, List.take_append_drop]
  have hleft : (line.take p).length = p := by
    rw [List.length_take]
    omega
  have hplace : m.offset = offset + (line.take p).length := by rw [hleft, h.place]
  have hread := h.outcome
  rw [hdrop] at hread
  rcases Outcome.read_eq_ok hread with ⟨_, hmalformed⟩ | ⟨a, ha, hmeans⟩
  · have hstart : line.take p ++ marker.items.toList <+: line := ⟨rest, hline⟩
    obtain ⟨right, hbody⟩ := prefix_lineBody hending hstart fun b hb => by
      rw [List.getLast?_append] at hb
      exact marker_free b (List.mem_of_mem_getLast? hb)
    rw [← hbody]
    exact ⟨_, right, .bare hplace hmalformed⟩
  · obtain ⟨_, tail, htail⟩ := ArgumentBytes.read_eq_some ha
    have hstart : line.take p ++ marker.items.toList ++ a.write <+: line := by
      refine ⟨tail, ?_⟩
      rw [List.append_assoc _ a.write, ← htail, hline]
    obtain ⟨right, hbody⟩ := prefix_lineBody hending hstart fun b hb => by
      rw [ArgumentBytes.write, ← List.append_assoc, List.getLast?_concat] at hb
      cases hb
      decide
    rw [← hbody]
    refine ⟨_, right, .listed a hplace ?_⟩
    rw [hleft, show offset + (p : Int) + 8 = offset + (p + marker.length : Nat) by
      rw [show marker.length = 8 from rfl]; omega]
    exact hmeans

end LabelTally.Comment

namespace LabelTally.Report

open Comment Occurrence Text

/-- A part that begins and ends with bytes below 128 can be shown anywhere. -/
theorem isShown_of_ends {part : List UInt8} {first last : UInt8} (hfree : lineFeed ∉ part)
    (hfirst : part.head? = some first) (hascii : first < 0x80) (hlast : part.getLast? = some last)
    (hpivot : IsPivot last) (before after : List UInt8) : IsShown before part after where
  free := hfree
  opens := Or.inr fun b hb => by
    cases hfirst.symm.trans hb
    exact hascii
  closes := Or.inl ⟨last, hlast, hpivot⟩

/-- A part between two bytes below 128 can be shown, whatever it is. -/
theorem isShown_between {part : List UInt8} {first last : UInt8} (hfree : lineFeed ∉ part)
    (hascii : first < 0x80) (hpivot : IsPivot last) (before after : List UInt8) :
    IsShown (before ++ [first]) part (last :: after) where
  free := hfree
  opens := Or.inl fun b hb => by
    rw [List.getLast?_concat] at hb
    cases hb
    exact hascii
  closes := Or.inr ⟨last, rfl, hpivot⟩

/-- The span of a file lies in the body of a line, as a part that can be shown. -/
def IsShownIn (before body after : List UInt8) (span : Span) : Prop :=
  ∃ ahead part behind, body = ahead ++ part ++ behind ∧
    span = ⟨(before ++ ahead).length, (before ++ ahead).length + part.length⟩ ∧
    IsShown (before ++ ahead) part (behind ++ after)

/-- A marker can be shown. -/
theorem isShownIn_marker (before left right after : List UInt8) :
    IsShownIn before (left ++ marker.items.toList ++ right) after
      ⟨before.length + left.length, before.length + left.length + 8⟩ := by
  have hfree : lineFeed ∉ marker.items.toList := fun hb => marker_free _ hb isTerminator_lineFeed
  refine ⟨left, marker.items.toList, right, rfl, ?_,
    isShown_of_ends hfree rfl (by decide) rfl (by decide) _ _⟩
  rw [List.length_append]
  rfl

section Listed

variable {before left right : List UInt8} {a : ArgumentBytes}
  (hfree : lineFeed ∉ left ++ marker.items.toList ++ a.write ++ right) (after : List UInt8)
include hfree

/-- A marker with its argument list can be shown. -/
theorem isShownIn_call :
    IsShownIn before (left ++ marker.items.toList ++ a.write ++ right) after
      ⟨before.length + left.length, before.length + left.length + 8 + a.size⟩ := by
  have hlast : (marker.items.toList ++ a.write).getLast? = some closeParen := by
    rw [ArgumentBytes.write, ← List.append_assoc, List.getLast?_concat]
  refine ⟨left, marker.items.toList ++ a.write, right, ?_, ?_,
    isShown_of_ends (fun hb => hfree ?_) rfl (by decide) hlast (by decide) _ _⟩
  · simp only [List.append_assoc]
  · have hsize : marker.items.toList.length = 8 := rfl
    simp only [Span.mk.injEq, List.length_append, hsize, a.length_write]
    omega
  · rw [List.append_assoc left]
    exact List.mem_append_left _ (List.mem_append_right _ hb)

/-- The label of an argument list behind a marker can be shown. -/
theorem isShownIn_label :
    IsShownIn before (left ++ marker.items.toList ++ a.write ++ right) after
      (a.labelArg (before.length + left.length + 8)).span := by
  obtain ⟨stop, behind, hstop, hwrite⟩ := a.exists_write_label
  have hpivot : IsPivot stop := by rcases hstop with rfl | rfl <;> decide
  refine ⟨left ++ marker.items.toList ++ [openParen], a.label, stop :: behind ++ right, ?_, ?_, ?_⟩
  · rw [hwrite]
    simp only [List.append_assoc]
  · have hsize : marker.items.toList.length = 8 := rfl
    simp only [ArgumentBytes.labelArg, Span.mk.injEq, List.length_append, hsize,
      List.length_singleton]
    omega
  · rw [← List.append_assoc before]
    refine isShown_between (fun hb => hfree ?_) (by decide) hpivot _ _
    rw [hwrite]
    simp [hb]

/-- A second argument behind a marker can be shown. -/
theorem isShownIn_count {c : CountBytes} (hcount : a.count = some c) :
    IsShownIn before (left ++ marker.items.toList ++ a.write ++ right) after
      (a.countSpan c (before.length + left.length + 8)) := by
  obtain ⟨ahead, stop, hstop, hwrite, hstart⟩ :=
    ArgumentBytes.exists_write_count hcount (before.length + left.length + 8)
  have hascii : stop < 0x80 := by rcases hstop with rfl | rfl <;> decide
  have hspan : a.countSpan c (before.length + left.length + 8) =
      ⟨(a.countSpan c (before.length + left.length + 8)).start,
        (a.countSpan c (before.length + left.length + 8)).start + c.raw.length⟩ := rfl
  refine ⟨left ++ marker.items.toList ++ ahead ++ [stop], c.raw, closeParen :: right, ?_, ?_, ?_⟩
  · rw [hwrite]
    simp only [List.append_assoc, List.singleton_append]
  · have hsize : marker.items.toList.length = 8 := rfl
    rw [hspan, hstart]
    simp only [Span.mk.injEq, List.length_append, hsize, List.length_singleton]
    omega
  · rw [← List.append_assoc before]
    refine isShown_between (fun hb => hfree ?_) hascii (by decide) _ _
    rw [hwrite]
    simp [hb]

end Listed

/-- Every stretch of a match that can be blamed lies in the body of the line and can be shown. -/
theorem isShownIn_of_stands {m : Match} {before left right body : List UInt8}
    (hlength : m.markerLength = 8) (hstands : m.Stands before.length left right body)
    (hfree : lineFeed ∉ body) {span : Span} (hspan : m.Blames span) (after : List UInt8) :
    IsShownIn before body after span := by
  cases hstands with
  | bare hplace houtcome =>
    cases hspan with
    | whole =>
      rw [Match.span, houtcome, hlength, hplace]
      exact isShownIn_marker before left right after
    | label h => cases houtcome.symm.trans h
    | count h => cases houtcome.symm.trans h
    | badCount h => cases houtcome.symm.trans h
  | listed a hplace hmeans =>
    -- A match without valid arguments is blamed as its marker alone.
    have hmarker := isShownIn_marker before left (a.write ++ right) after
    rw [← List.append_assoc] at hmarker
    cases hspan with
    | whole =>
      rw [Match.span, hlength, hplace]
      generalize m.outcome = o at hmeans
      cases hmeans with
      | blank _ => exact hmarker
      | refused c _ _ _ => exact hmarker
      | plain _ _ => exact isShownIn_call hfree after
      | counted c n _ _ _ => exact isShownIn_call hfree after
    | label h =>
      rw [h] at hmeans
      cases hmeans with
      | plain _ _ => exact isShownIn_label hfree after
      | counted c n _ _ _ => exact isShownIn_label hfree after
    | count h hcount =>
      rw [h] at hmeans
      cases hmeans with
      | plain _ _ => cases hcount
      | counted c n _ hc _ =>
        cases hcount
        exact isShownIn_count hfree after hc
    | badCount h =>
      rw [h] at hmeans
      cases hmeans with
      | refused c _ hc _ => exact isShownIn_count hfree after hc

/-- The text of the line of a file around a position: the bytes between the line feeds next to it,
decoded, without carriage returns at the end. -/
def IsLineText (data : List UInt8) (position : Nat) (text : List Char) : Prop :=
  ∃ earlier line later, data = earlier ++ line ++ later ∧
    (earlier = [] ∨ earlier.getLast? = some lineFeed) ∧ lineFeed ∉ line ∧
    (later = [] ∨ later.head? = some lineFeed) ∧
    earlier.length ≤ position ∧ position ≤ earlier.length + line.length ∧
    (∃ k, Utf8.decode line = text ++ List.replicate k '\r') ∧ text.getLast? ≠ some '\r'

/-- The place underlines the bytes of a span of a file. -/
structure Located.Underlines (found : Located) (data : List UInt8) (span : Span) : Prop where
  /-- The line is the one behind so many line feeds. -/
  line : found.line = 1 + (data.take span.start.toNat).count lineFeed
  /-- The text is that of the line. -/
  text : IsLineText data span.start.toNat found.text
  /-- Columns count from one. -/
  column : 1 ≤ found.column
  /-- The underlined characters are what the bytes of the span decode to. -/
  shown : ∃ raw, span.cut? data = some raw ∧
    (found.text.drop (found.column - 1)).take (Utf8.decode raw).length = Utf8.decode raw ∧
    found.width = max (Utf8.decode raw).length 1
  /-- The underlined characters are characters of the line. -/
  fits : found.column - 1 + found.width ≤ found.text.length

/-- The text that a part is shown in is that of its line. -/
theorem IsShown.isLineText {before part after : List UInt8} (h : IsShown before part after) :
    IsLineText (before ++ part ++ after) before.length
      (Utf8.decode (openLine before) ++ Utf8.decode part ++
        dropReturns (Utf8.decode (restOfLine after))) := by
  obtain ⟨earlier, hbefore, hearlier⟩ := exists_append_openLine before
  obtain ⟨later, hafter, hlater⟩ := exists_restOfLine_append after
  have hsize := congrArg List.length hbefore
  rw [List.length_append] at hsize
  refine ⟨earlier, openLine before ++ part ++ restOfLine after, later, ?_, hearlier, ?_, hlater,
    ?_, ?_, ?_⟩
  · calc before ++ part ++ after
        = earlier ++ openLine before ++ part ++ (restOfLine after ++ later) := by
          rw [← hbefore, ← hafter]
      _ = earlier ++ (openLine before ++ part ++ restOfLine after) ++ later := by
          simp only [List.append_assoc]
  · simp only [List.mem_append, not_or]
    exact ⟨⟨lineFeed_notMem_openLine before, h.free⟩, lineFeed_notMem_restOfLine after⟩
  · omega
  · rw [List.length_append, List.length_append]
    omega
  · rw [← h.dropReturns_line]
    exact exists_dropReturns_append _

/-- A part that can be shown is underlined exactly. -/
theorem IsShown.underlines {before part after : List UInt8} (h : IsShown before part after) :
    (locate (before ++ part ++ after) ⟨before.length, before.length + part.length⟩).Underlines
      (before ++ part ++ after) ⟨before.length, before.length + part.length⟩ := by
  have hsome : 0 < (Utf8.decode part).length +
      (dropReturns (Utf8.decode (restOfLine after))).length := by
    rcases h.decode_ne_nil with hne | hne
    · exact Nat.add_pos_left (List.length_pos_iff.mpr hne) _
    · exact Nat.add_pos_right _ (List.length_pos_iff.mpr hne)
  rw [h.locate_eq]
  refine ⟨?_, h.isLineText, Nat.le_add_left 1 _, ⟨part, ?_, ?_, rfl⟩, ?_⟩
  · dsimp only
    rw [Int.toNat_natCast, List.append_assoc, List.take_left, Nat.add_comm]
  · exact Span.cut?_eq_some before part after rfl rfl rfl
  · rw [Nat.add_sub_cancel, List.append_assoc, List.drop_left, List.take_left]
  · dsimp only
    rw [Nat.add_sub_cancel, List.length_append, List.length_append]
    omega

/-- Every stretch of a match that can be blamed lies in the body of the line of the match. -/
theorem isShownIn_of_reports {line before : List UInt8} {p : Nat} {m : Match}
    (h : Reports marker line before.length p m) (hending : IsEnding (lineEnding line)) {span : Span}
    (hspan : m.Blames span) (after : List UInt8) :
    IsShownIn before (lineBody line) after span := by
  obtain ⟨left, right, hstands⟩ := h.exists_stands hending
  refine isShownIn_of_stands h.length hstands (fun hb => ?_) hspan after
  exact not_isTerminator_of_mem_lineBody hb isTerminator_lineFeed

/-- A stretch of a match in a line of a file is a part of the file that can be shown. -/
theorem exists_isShown_of_reports {data : List UInt8} {l : Nat × List UInt8} {p : Nat} {m : Match}
    (h : Reports marker l.2 l.1 p m) (hl : l ∈ withOffsets 0 (lines data)) {span : Span}
    (hspan : m.Blames span) :
    ∃ before part after, data = before ++ part ++ after ∧
      span = ⟨before.length, before.length + part.length⟩ ∧ IsShown before part after := by
  obtain ⟨earlier, later, hlines, hoffset⟩ := exists_append_of_mem_withOffsets hl
  have hending := isEnding_lines (hlines ▸ List.mem_append_right _ List.mem_cons_self)
  rw [hoffset, Nat.zero_add] at h
  obtain ⟨ahead, part, behind, hbody, hplace, hshown⟩ :=
    isShownIn_of_reports h hending hspan (lineEnding l.2 ++ later.flatten)
  refine ⟨_, part, _, ?_, hplace, hshown⟩
  calc data = earlier.flatten ++ (l.2 ++ later.flatten) := by
        rw [← flatten_lines data, hlines, List.flatten_append, List.flatten_cons]
    _ = earlier.flatten ++ (ahead ++ part ++ behind ++ lineEnding l.2 ++ later.flatten) := by
        rw [← hbody, lineBody_append_lineEnding]
    _ = _ := by simp only [List.append_assoc]

/-- Whatever a finding blames of a match in a file is underlined exactly, in every state of the
sources that keeps the bytes of the file. -/
theorem locate_underlines_blamed {data : List UInt8} {l : Nat × List UInt8}
    (hl : l ∈ markerLines marker data) {found : List Match}
    (hscan : scanLine marker l.1 l.2 = .ok found) {m : Match} (hm : m ∈ found) {span : Span}
    (hspan : m.Blames span) {s : Sources} {path : Path} (hkept : s.kept? path = some data)
    (fs : FileTree.FileSystem) :
    ∃ place, s.locate fs ⟨path, span⟩ = .ok (place, s) ∧ place.Underlines data span := by
  obtain ⟨p, hreports⟩ := exists_reports_of_scanLine hscan m hm
  obtain ⟨before, part, after, rfl, rfl, hshown⟩ :=
    exists_isShown_of_reports hreports (mem_markerLines.mp hl).1 hspan
  exact ⟨_, Sources.locate_of_kept hkept fs, hshown.underlines⟩

/-- An empty count behind a cut-off character, in the second line of a file: `x`, a carriage return
and a line feed, then two bytes of a longer character and `CODESYNC(b,)`, and both again. -/
theorem locate_underlines_empty_count :
    ∃ place, Sources.locate ⟨⟨[⟨Path.fromRoot ["a"], [], some [120, 13, 10, 226, 130, 67, 79, 68,
        69, 83, 89, 78, 67, 40, 98, 44, 41, 13, 10]⟩]⟩, []⟩ default
          ⟨Path.fromRoot ["a"], ⟨16, 16⟩⟩ =
        .ok (place, ⟨⟨[⟨Path.fromRoot ["a"], [], some [120, 13, 10, 226, 130, 67, 79, 68, 69, 83,
          89, 78, 67, 40, 98, 44, 41, 13, 10]⟩]⟩, []⟩) ∧
      place.Underlines [120, 13, 10, 226, 130, 67, 79, 68, 69, 83, 89, 78, 67, 40, 98, 44, 41, 13,
        10] ⟨16, 16⟩ := by
  have hlines : markerLines marker [120, 13, 10, 226, 130, 67, 79, 68, 69, 83, 89, 78, 67, 40, 98,
      44, 41, 13, 10] =
        [(3, [226, 130, 67, 79, 68, 69, 83, 89, 78, 67, 40, 98, 44, 41, 13, 10])] := by cbv
  have hscan : scanLine marker (3 : Nat) [226, 130, 67, 79, 68, 69, 83, 89, 78, 67, 40, 98, 44, 41,
      13, 10] = .ok [⟨5, .invalidCount ⟨16, 16⟩, 8⟩] := by cbv
  exact locate_underlines_blamed (hlines ▸ List.mem_singleton_self _) hscan
    (List.mem_singleton_self _) (.badCount rfl) (by rfl) default

end LabelTally.Report
