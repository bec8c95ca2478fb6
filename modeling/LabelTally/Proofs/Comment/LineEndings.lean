import LabelTally.Proofs.Comment.Relocation

/-!
# Line endings

A file without carriage returns can have its line feeds replaced by carriage returns, or by both
together, without a change to its annotations. Its lines keep their bodies. Neither a marker nor an
argument list reaches into a terminator: a marker has no terminating byte, and an argument list ends
with a parenthesis. So only the places of the matches move, by the bytes added before them.
-/

namespace LabelTally.Text

/-- The file with another line ending in the place of every line feed. -/
def withEnding (ending data : List UInt8) : List UInt8 :=
  data.flatMap fun b => if b = lineFeed then ending else [b]

/-- Line feeds are replaced one after the other. -/
theorem withEnding_cons (ending : List UInt8) (b : UInt8) (rest : List UInt8) :
    withEnding ending (b :: rest) =
      (if b = lineFeed then ending else [b]) ++ withEnding ending rest :=
  List.flatMap_cons

/-- Line feeds are replaced in one part after the other. -/
theorem withEnding_append (ending left right : List UInt8) :
    withEnding ending (left ++ right) = withEnding ending left ++ withEnding ending right :=
  List.flatMap_append

/-- Line feeds are replaced in one line after the other. -/
theorem withEnding_flatten (ending : List UInt8) (ls : List (List UInt8)) :
    withEnding ending ls.flatten = (ls.map (withEnding ending)).flatten := by
  induction ls with
  | nil => rfl
  | cons line rest ih =>
    rw [List.flatten_cons, withEnding_append, ih, List.map_cons, List.flatten_cons]

/-- Bytes without line feed stay. -/
theorem withEnding_of_free {bytes : List UInt8} (h : lineFeed ∉ bytes) (ending : List UInt8) :
    withEnding ending bytes = bytes := by
  induction bytes with
  | nil => rfl
  | cons b rest ih =>
    have hb : b ≠ lineFeed := fun he => h (he ▸ List.mem_cons_self)
    rw [withEnding_cons, if_neg hb, ih fun hrest => h (List.mem_cons_of_mem _ hrest)]
    rfl

/-- Every line feed adds the bytes that the other line ending has more. -/
theorem length_withEnding (ending data : List UInt8) :
    ((withEnding ending data).length : Int) =
      data.length + ((ending.length : Int) - 1) * data.count lineFeed := by
  induction data with
  | nil => simp [withEnding]
  | cons b rest ih =>
    rw [withEnding_cons, List.length_append, Int.natCast_add, ih, List.length_cons]
    by_cases hb : b = lineFeed
    · rw [if_pos hb, hb, List.count_cons_self]
      push_cast
      ring
    · rw [if_neg hb, List.count_cons_of_ne hb, List.length_singleton]
      push_cast
      ring

/-- No line feed is left behind if the other line ending has none. -/
theorem lineFeed_notMem_withEnding {ending : List UInt8} (h : lineFeed ∉ ending)
    (data : List UInt8) : lineFeed ∉ withEnding ending data := by
  intro hmem
  obtain ⟨b, _, hb⟩ := List.mem_flatMap.mp hmem
  split at hb
  · exact h hb
  · rename_i hne
    exact hne (List.mem_singleton.mp hb).symm

section Lines

variable {ending data line : List UInt8}

/-- A line without carriage return gets the other line ending in the place of its own. -/
theorem withEnding_line (hreturn : carriageReturn ∉ line) (hline : IsEnding (lineEnding line)) :
    withEnding ending line = lineBody line ++ if lineEnding line = [] then [] else ending := by
  have hbody : lineFeed ∉ lineBody line := fun hmem =>
    not_isTerminator_of_mem_lineBody hmem isTerminator_lineFeed
  have hown : carriageReturn ∉ lineEnding line := fun hmem => by
    refine hreturn ?_
    rw [← lineBody_append_lineEnding line]
    exact List.mem_append_right _ hmem
  conv => lhs; rw [← lineBody_append_lineEnding line]
  rw [withEnding_append, withEnding_of_free hbody]
  congr 1
  generalize lineEnding line = own at hline hown
  cases hline with
  | missing => rfl
  | feed => simp [withEnding]
  | carriage => simp at hown
  | both => simp at hown

/-- The bytes of a line are bytes of the file. -/
theorem mem_of_mem_lines {b : UInt8} (hline : line ∈ lines data) (h : b ∈ line) : b ∈ data := by
  rw [← flatten_lines data]
  exact List.mem_flatten_of_mem hline h

variable (hending : ending = [carriageReturn, lineFeed] ∨ ending = [carriageReturn])
include hending

/-- The other line ending is a terminator. -/
theorem isEnding_of_eq : IsEnding ending ∧ ending ≠ [] := by
  rcases hending with rfl | rfl
  · exact ⟨.both, by simp⟩
  · exact ⟨.carriage, by simp⟩

/-- A line has the other line ending as its terminator, if it had one. -/
theorem lineEnding_withEnding (hreturn : carriageReturn ∉ line)
    (hline : IsEnding (lineEnding line)) :
    lineEnding (withEnding ending line) = if lineEnding line = [] then [] else ending := by
  rw [withEnding_line hreturn hline]
  refine (lineEnding_append (fun b => not_isTerminator_of_mem_lineBody) fun b hb => ?_).2
  split at hb
  · cases hb
  · exact (isEnding_of_eq hending).1.isTerminator b (List.mem_of_mem_head? hb)

/-- The lines of the file with another line ending are the lines of the file with it. -/
theorem lines_withEnding (hreturn : carriageReturn ∉ data) :
    lines (withEnding ending data) = (lines data).map (withEnding ending) := by
  have hfree : ∀ line ∈ lines data, carriageReturn ∉ line := fun line hline hmem =>
    hreturn (mem_of_mem_lines hline hmem)
  have hshape : ∀ line ∈ lines data, lineEnding (withEnding ending line) =
      if lineEnding line = [] then [] else ending := fun line hline =>
    lineEnding_withEnding hending (hfree line hline) (isEnding_lines hline)
  have hne : ∀ line ∈ (lines data).map (withEnding ending), line ≠ [] := by
    intro line' hline'
    obtain ⟨line, hline, rfl⟩ := List.mem_map.mp hline'
    have hwhole := lineBody_append_lineEnding line
    rw [withEnding_line (hfree line hline) (isEnding_lines hline)]
    split
    · rename_i hopen
      rw [hopen] at hwhole
      rw [hwhole]
      exact ne_nil_of_mem_lines hline
    · simp [(isEnding_of_eq hending).2]
  have hends : ∀ line ∈ (lines data).map (withEnding ending), IsEnding (lineEnding line) := by
    intro line' hline'
    obtain ⟨line, hline, rfl⟩ := List.mem_map.mp hline'
    rw [hshape line hline]
    split
    · exact .missing
    · exact (isEnding_of_eq hending).1
  have hchain : ((lines data).map (withEnding ending)).IsChain IsCut := by
    refine (List.isChain_map _).mpr ((isChain_lines data).imp_of_mem_imp ?_)
    intro line next hline _ hcut
    rw [IsCut, hshape line hline, if_neg hcut.1]
    refine ⟨(isEnding_of_eq hending).2, fun hlone hfeed => ?_⟩
    -- With lone carriage returns no line feed is left for them to join.
    refine lineFeed_notMem_withEnding ?_ next (List.mem_of_mem_head? hfeed)
    rw [hlone]
    decide
  have hlines := lines_flatten hne hends hchain
  rwa [← withEnding_flatten, flatten_lines] at hlines

end Lines

end LabelTally.Text

namespace LabelTally.Comment

open Decimal Occurrence Text

section Terminators

variable {bytes ending : List UInt8} (hending : ∀ b ∈ ending, IsTerminator b)
include hending

/-- Terminators behind some bytes belong to no argument list. -/
theorem ArgumentBytes.read_append_terminators :
    ArgumentBytes.read (bytes ++ ending) = ArgumentBytes.read bytes := by
  have hclose : ¬IsTerminator closeParen := by decide
  cases hlong : ArgumentBytes.read (bytes ++ ending) with
  | some a =>
    obtain ⟨hwf, tail, htail⟩ := ArgumentBytes.read_eq_some hlong
    obtain ⟨rest, rfl⟩ : a.write <+: bytes := by
      refine prefix_of_prefix_append ⟨tail, htail.symm⟩ hending fun b hb => ?_
      rw [ArgumentBytes.write, List.getLast?_concat] at hb
      cases hb
      exact hclose
    exact (ArgumentBytes.read_write hwf rest).symm
  | none =>
    cases hshort : ArgumentBytes.read bytes with
    | none => rfl
    | some a =>
      obtain ⟨hwf, tail, rfl⟩ := ArgumentBytes.read_eq_some hshort
      rw [List.append_assoc, ArgumentBytes.read_write hwf] at hlong
      cases hlong

variable {n : Needle UInt8} (hfree : ∀ b ∈ n.items.toList, ¬IsTerminator b)
include hfree

/-- No marker reaches into terminators. -/
theorem occursAt_append_terminators (p : Nat) :
    OccursAt n.items.toList (bytes ++ ending) p ↔ OccursAt n.items.toList bytes p := by
  have hn := n.length_toList_pos
  constructor
  · intro h
    rw [OccursAt, List.drop_append] at h
    exact prefix_of_prefix_append h (fun b hb => hending b (List.mem_of_mem_drop hb)) fun b hb =>
      hfree b (List.mem_of_mem_getLast? hb)
  · intro h
    have hplaced := h.append hn [] ending
    rwa [List.nil_append, List.length_nil, Nat.zero_add] at hplaced

/-- Looking for a marker does not depend on terminators behind the bytes. -/
theorem isFirst_append_terminators {pos : Nat} {r : Option Nat}
    (h : IsFirst n.items.toList bytes pos r) : IsFirst n.items.toList (bytes ++ ending) pos r := by
  have hsame : ∀ p, OccursAt n.items.toList (bytes ++ ending) p ↔ OccursAt n.items.toList bytes p :=
    occursAt_append_terminators hending hfree
  cases r with
  | none => exact fun q hq ho => h q hq ((hsame q).mp ho)
  | some p =>
    exact ⟨h.1, (hsame p).mpr h.2.1, fun q hq ho => h.2.2 q hq ((hsame q).mp ho)⟩

/-- A run over some bytes is one over the bytes with terminators behind them. -/
theorem ScanRun.append_terminators {offset : Int} {pos : Nat}
    {r : Except TooManyDigits (List Match)} (h : ScanRun n bytes offset pos r) :
    ScanRun n (bytes ++ ending) offset pos r := by
  -- What follows a marker is the same up to the terminators, which are not read.
  have hdrop : ∀ p, OccursAt n.items.toList bytes p →
      (bytes ++ ending).drop (p + n.length) = bytes.drop (p + n.length) ++ ending :=
    fun p ho => List.drop_append_of_le_length (n.add_length_le ho)
  have hread : ∀ p, OccursAt n.items.toList bytes p → ∀ start,
      Outcome.read ((bytes ++ ending).drop (p + n.length)) start =
        Outcome.read (bytes.drop (p + n.length)) start := by
    intro p ho start
    rw [Outcome.read, hdrop p ho, ArgumentBytes.read_append_terminators hending, Outcome.read]
  have hresume : ∀ p, OccursAt n.items.toList bytes p →
      resumeAfter n (bytes ++ ending) p = resumeAfter n bytes p := by
    intro p ho
    rw [resumeAfter, argumentLength, hdrop p ho, ArgumentBytes.read_append_terminators hending,
      resumeAfter, argumentLength]
  induction h with
  | done hnone => exact .done (isFirst_append_terminators hending hfree hnone)
  | fails hfirst hfails =>
    refine .fails (isFirst_append_terminators hending hfree hfirst) ?_
    rw [hread _ hfirst.2.1, hfails]
  | @step pos p m r hfirst hreports hrest ih =>
    rw [← hresume p hfirst.2.1] at ih
    refine .step (isFirst_append_terminators hending hfree hfirst) ?_ ih
    exact ⟨(occursAt_append_terminators hending hfree p).mpr hreports.occurs, hreports.place,
      hreports.length, (hread p hfirst.2.1 _).trans hreports.outcome⟩

/-- Terminators behind a line change nothing that a scan tells of it. -/
theorem scanLine_append_terminators (offset : Int) :
    scanLine n offset (bytes ++ ending) = scanLine n offset bytes :=
  (scanLine_run_zero n (bytes ++ ending) offset).unique
    ((scanLine_run_zero n bytes offset).append_terminators hending hfree)

end Terminators

section Places

variable {f g : Int → Int}

/-- The second argument lies within its list. -/
theorem ArgumentBytes.countSpan_within {a : ArgumentBytes} {c : CountBytes} (h : a.count = some c)
    (start : Int) :
    start ≤ (a.countSpan c start).start ∧
      (a.countSpan c start).start ≤ (a.countSpan c start).stop ∧
      (a.countSpan c start).stop ≤ start + a.size := by
  simp only [countSpan, size, h, CountBytes.size]
  split <;> omega

/-- New places of an argument list depend only on the new places of the positions in it. -/
theorem ArgumentBytes.Means.relocate_congr {a : ArgumentBytes} {start : Int} {o : Outcome}
    (h : a.Means start o) (hfg : ∀ p, start ≤ p → p ≤ start + a.size → f p = g p) :
    o.relocate f = o.relocate g := by
  have hlabel : (a.labelArg start).relocate f = (a.labelArg start).relocate g := by
    have hsize : a.label.length + 2 ≤ a.size := by
      rw [ArgumentBytes.size]
      omega
    have hstart := hfg (start + 1) (by omega) (by omega)
    have hstop := hfg (start + 1 + a.label.length) (by omega) (by omega)
    simp only [Arg.relocate, Span.relocate, ArgumentBytes.labelArg, hstart, hstop]
  have hcount : ∀ c, a.count = some c →
      (a.countSpan c start).relocate f = (a.countSpan c start).relocate g := by
    intro c hc
    obtain ⟨hfirst, horder, hlast⟩ := ArgumentBytes.countSpan_within hc start
    rw [Span.relocate, hfg _ hfirst (by omega), hfg _ (by omega) hlast, Span.relocate]
  cases h with
  | blank hblank => rfl
  | plain hblank hnone => simp only [Outcome.relocate, Args.relocate, hlabel, Option.map_none]
  | counted c n hblank hc hread =>
    simp only [Outcome.relocate, Args.relocate, hlabel, Option.map_some]
    simp only [Arg.relocate, hcount c hc]
  | refused c hblank hc hread => simp only [Outcome.relocate, hcount c hc]

/-- New places of a match depend only on the new places of the positions in its line. -/
theorem Reports.relocate_congr {n : Needle UInt8} {line : List UInt8} {offset : Int} {p : Nat}
    {m : Match} (h : Reports n line offset p m)
    (hfg : ∀ q, offset ≤ q → q ≤ offset + line.length → f q = g q) :
    m.relocate f = m.relocate g := by
  have hle := n.add_length_le h.occurs
  have hplace : f m.offset = g m.offset := by
    rw [h.place]
    exact hfg _ (by omega) (by omega)
  have houtcome : m.outcome.relocate f = m.outcome.relocate g := by
    rcases Outcome.read_eq_ok h.outcome with ⟨_, ho⟩ | ⟨a, hread, hmeans⟩
    · rw [ho]
      rfl
    · obtain ⟨_, tail, htail⟩ := ArgumentBytes.read_eq_some hread
      have hsize := congrArg List.length htail
      rw [List.length_drop, List.length_append, a.length_write] at hsize
      exact hmeans.relocate_congr fun q hq hq' => hfg q (by omega) (by omega)
  rw [Match.relocate, hplace, houtcome, Match.relocate]

/-- New places of the matches of a line depend only on the new places of the positions in it. -/
theorem scanLine_relocate_congr {n : Needle UInt8} {line : List UInt8} {offset : Int}
    (hfg : ∀ q, offset ≤ q → q ≤ offset + line.length → f q = g q) :
    (scanLine n offset line).map (List.map (Match.relocate f)) =
      (scanLine n offset line).map (List.map (Match.relocate g)) := by
  cases hscan : scanLine n offset line with
  | error e => rfl
  | ok found =>
    refine congrArg Except.ok (List.map_congr_left fun m hm => ?_)
    obtain ⟨p, hreports⟩ := exists_reports_of_scanLine hscan m hm
    exact hreports.relocate_congr hfg

end Places

/-- The place, in the file with another line ending, of what has a position in the file: each line
feed before it adds the bytes that the other line ending has more. -/
def placeWithEnding (ending data : List UInt8) (position : Int) : Int :=
  position + ((ending.length : Int) - 1) * (data.take position.toNat).count lineFeed

section Endings

variable {n : Needle UInt8} (hfree : ∀ b ∈ n.items.toList, ¬IsTerminator b) {ending : List UInt8}
  (hending : IsEnding ending)
include hfree hending

/-- A line with another line ending has the same matches, moved by the bytes added before it. -/
theorem scanLine_withEnding {line : List UInt8} (hreturn : carriageReturn ∉ line)
    (hline : IsEnding (lineEnding line)) (before after : List UInt8) :
    scanLine n (withEnding ending before).length (withEnding ending line) =
      (scanLine n before.length line).map
        (List.map (Match.relocate (placeWithEnding ending (before ++ line ++ after)))) := by
  have hbody : scanLine n before.length line = scanLine n before.length (lineBody line) := by
    conv => lhs; rw [← lineBody_append_lineEnding line]
    exact scanLine_append_terminators hline.isTerminator hfree _
  have hother : ∀ offset, scanLine n offset (withEnding ending line) =
      scanLine n offset (lineBody line) := by
    intro offset
    rw [withEnding_line hreturn hline]
    refine scanLine_append_terminators (fun b hb => ?_) hfree offset
    split at hb
    · cases hb
    · exact hending.isTerminator b hb
  rw [hother, length_withEnding, scanLine_add, hbody]
  refine scanLine_relocate_congr fun q hq hq' => ?_
  -- Between the start of the line and the end of its body there is no line feed.
  obtain ⟨k, rfl⟩ : ∃ k : Nat, q = before.length + k := ⟨(q - before.length).toNat, by omega⟩
  have hk : k ≤ (lineBody line).length := by omega
  have htake : (before ++ line ++ after).take (before.length + k) =
      before ++ (lineBody line).take k := by
    have hwhole : line ++ after = lineBody line ++ (lineEnding line ++ after) := by
      rw [← List.append_assoc, lineBody_append_lineEnding]
    rw [List.append_assoc, List.take_length_add_append, hwhole, List.take_append_of_le_length hk]
  have hnone : ((lineBody line).take k).count lineFeed = 0 := by
    rw [List.count_eq_zero]
    exact fun hmem => not_isTerminator_of_mem_lineBody (List.mem_of_mem_take hmem)
      isTerminator_lineFeed
  rw [placeWithEnding, ← Int.natCast_add, Int.toNat_natCast, htake, List.count_append, hnone,
    Nat.add_zero]

/-- Lines with another line ending have the same matches, moved by the bytes added before them. -/
theorem scanLines_withEnding {ls : List (List UInt8)}
    (hls : ∀ line ∈ ls, carriageReturn ∉ line ∧ IsEnding (lineEnding line)) (before : List UInt8) :
    scanLines n (withOffsets (withEnding ending before).length (ls.map (withEnding ending))) =
      (scanLines n (withOffsets before.length ls)).map
        (List.map (Match.relocate (placeWithEnding ending (before ++ ls.flatten)))) := by
  induction ls generalizing before with
  | nil => rfl
  | cons line rest ih =>
    obtain ⟨hline, hrest⟩ := List.forall_mem_cons.mp hls
    have hhere := scanLine_withEnding hfree hending hline.1 hline.2 before rest.flatten
    have hthere := ih hrest (before ++ line)
    rw [withEnding_append, List.length_append, List.length_append] at hthere
    rw [List.map_cons, withOffsets, withOffsets, scanLines_cons, scanLines_cons, hhere, hthere,
      List.flatten_cons, ← List.append_assoc, map_bind_append]

end Endings

/-- A file without carriage returns tells the same with carriage returns in the place of its line
feeds, alone or before a line feed: there are the same matches in the same order, with every
position in them moved by the bytes that the line endings before it have more. -/
theorem scan_withEnding {ending data : List UInt8}
    (hending : ending = [carriageReturn, lineFeed] ∨ ending = [carriageReturn])
    (hreturn : carriageReturn ∉ data) :
    scan marker (withEnding ending data) =
      (scan marker data).map (List.map (Match.relocate (placeWithEnding ending data))) := by
  have hls : ∀ line ∈ lines data, carriageReturn ∉ line ∧ IsEnding (lineEnding line) :=
    fun line hline => ⟨fun hmem => hreturn (mem_of_mem_lines hline hmem), isEnding_lines hline⟩
  have hlines := scanLines_withEnding marker_free (isEnding_of_eq hending).1 hls []
  rw [scan_eq_scanLines, scan_eq_scanLines, lines_withEnding hending hreturn]
  rw [List.nil_append, flatten_lines] at hlines
  exact hlines

/-- An unfinished argument list, which is not finished by the next line, and a count behind it. -/
theorem scan_withEnding_unfinished_list :
    carriageReturn ∉ [67, 79, 68, 69, 83, 89, 78, 67, 40, 97, 10, 41, 10, 67, 79, 68, 69, 83, 89,
        78, 67, 40, 97, 44, 32, 50, 41] ∧
      withEnding [carriageReturn, lineFeed] [67, 79, 68, 69, 83, 89, 78, 67, 40, 97, 10, 41, 10, 67,
          79, 68, 69, 83, 89, 78, 67, 40, 97, 44, 32, 50, 41] =
        [67, 79, 68, 69, 83, 89, 78, 67, 40, 97, 13, 10, 41, 13, 10, 67, 79, 68, 69, 83, 89, 78, 67,
          40, 97, 44, 32, 50, 41] ∧
      scan marker (withEnding [carriageReturn, lineFeed] [67, 79, 68, 69, 83, 89, 78, 67, 40, 97,
          10, 41, 10, 67, 79, 68, 69, 83, 89, 78, 67, 40, 97, 44, 32, 50, 41]) =
        .ok [⟨0, .malformed, 8⟩,
          ⟨15, .valid ⟨⟨"a", "a", 24, 25⟩, some ⟨2, "2", 27, 28⟩, 6⟩, 8⟩] := by
  have hreturn : carriageReturn ∉ [67, 79, 68, 69, 83, 89, 78, 67, 40, 97, 10, 41, 10, 67, 79, 68,
      69, 83, 89, 78, 67, 40, 97, 44, 32, 50, 41] := by decide
  refine ⟨hreturn, by decide, (scan_withEnding (.inl rfl) hreturn).trans ?_⟩
  cbv

end LabelTally.Comment
