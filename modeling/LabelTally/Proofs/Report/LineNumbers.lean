import LabelTally.Proofs.Report.Blame

/-!
# Line numbers of the scan and of the report

A scan cuts a file into lines behind line feeds, behind carriage returns, and behind both together;
a report counts line feeds only. Up to a line the two counts agree exactly if every carriage return
before it belongs to a line feed, and the text that is shown is that of the line exactly if only
carriage returns stand between its body and the next line feed.
-/

namespace LabelTally.Text

/-- A line has at most one line feed. -/
theorem count_lineFeed_le_one {line : List UInt8} (hending : IsEnding (lineEnding line)) :
    line.count lineFeed ≤ 1 := by
  have hbody : (lineBody line).count lineFeed = 0 := by
    rw [List.count_eq_zero]
    exact fun hb => not_isTerminator_of_mem_lineBody hb isTerminator_lineFeed
  rw [← lineBody_append_lineEnding line, List.count_append, hbody, Nat.zero_add]
  generalize lineEnding line = ending at hending
  cases hending <;> decide

/-- Lines have at most as many line feeds as there are lines, and as many exactly if each has one.
-/
theorem count_lineFeed_flatten {ls : List (List UInt8)}
    (hending : ∀ line ∈ ls, IsEnding (lineEnding line)) :
    ls.flatten.count lineFeed ≤ ls.length ∧
      (ls.flatten.count lineFeed = ls.length ↔ ∀ line ∈ ls, lineFeed ∈ line) := by
  induction ls with
  | nil => simp
  | cons line rest ih =>
    obtain ⟨hline, hrest⟩ := List.forall_mem_cons.mp hending
    obtain ⟨hle, hiff⟩ := ih hrest
    have hone := count_lineFeed_le_one hline
    have hmem : 0 < line.count lineFeed ↔ lineFeed ∈ line := List.count_pos_iff
    rw [List.flatten_cons, List.count_append, List.length_cons, List.forall_mem_cons, ← hiff,
      ← hmem]
    omega

/-- Before a position every carriage return is followed by a line feed. -/
def IsPairedUpTo (data : List UInt8) (position : Nat) : Prop :=
  ∀ i < position, data[i]? = some carriageReturn → data[i + 1]? = some lineFeed

/-- The carriage returns of a file are those of its first part and those behind it. -/
theorem isPairedUpTo_append (first rest : List UInt8) (n : Nat) :
    IsPairedUpTo (first ++ rest) (first.length + n) ↔
      IsPairedUpTo (first ++ rest) first.length ∧ IsPairedUpTo rest n := by
  have hshift : ∀ i, (first ++ rest)[first.length + i]? = rest[i]? := fun i => by
    rw [List.getElem?_append_right (Nat.le_add_right _ _), Nat.add_sub_cancel_left]
  constructor
  · intro h
    refine ⟨fun i hi => h i (by omega), fun i hi hreturn => ?_⟩
    have hnext := h (first.length + i) (by omega)
    rw [Nat.add_assoc, hshift, hshift] at hnext
    exact hnext hreturn
  · rintro ⟨hfirst, hrest⟩ i hi
    by_cases hlt : i < first.length
    · exact hfirst i hlt
    · obtain ⟨k, rfl⟩ := Nat.exists_eq_add_of_le (Nat.le_of_not_lt hlt)
      rw [Nat.add_assoc, hshift, hshift]
      exact hrest k (by omega)

/-- A line that another one follows has only a paired carriage return exactly if it has a line feed.
-/
theorem isPairedUpTo_line_iff {line rest : List UInt8} (hending : IsEnding (lineEnding line))
    (hcut : IsCut line rest) :
    IsPairedUpTo (line ++ rest) line.length ↔ lineFeed ∈ line := by
  have hwhole := lineBody_append_lineEnding line
  have hbody : ∀ i < (lineBody line).length, ∀ tail : List UInt8,
      (lineBody line ++ tail)[i]? ≠ some carriageReturn := by
    intro i hi tail hreturn
    rw [List.getElem?_append_left hi] at hreturn
    exact not_isTerminator_of_mem_lineBody (List.mem_of_getElem? hreturn)
      isTerminator_carriageReturn
  have hpaired : IsPairedUpTo (line ++ rest) line.length ↔
      IsPairedUpTo (lineEnding line ++ rest) (lineEnding line).length := by
    have hsplit := isPairedUpTo_append (lineBody line) (lineEnding line ++ rest)
      (lineEnding line).length
    rw [← List.append_assoc, ← List.length_append, hwhole] at hsplit
    rw [hsplit, and_iff_right]
    intro i hi hreturn
    rw [← hwhole, List.append_assoc] at hreturn
    exact absurd hreturn (hbody i hi _)
  rw [hpaired, ← mem_lineEnding_iff]
  obtain ⟨hne, hlone⟩ := hcut
  generalize lineEnding line = ending at hending hne hlone
  cases hending with
  | missing => exact absurd rfl hne
  | feed =>
    refine iff_of_true (fun i hi hreturn => ?_) List.mem_cons_self
    obtain rfl : i = 0 := Nat.lt_one_iff.mp hi
    exact absurd hreturn (by simp [lineFeed, carriageReturn])
  | carriage =>
    refine iff_of_false (fun h => hlone rfl ?_) (by simp [lineFeed, carriageReturn])
    rw [List.head?_eq_getElem?]
    exact h 0 Nat.one_pos rfl
  | both =>
    refine iff_of_true (fun i hi hreturn => ?_) (List.mem_cons_of_mem _ List.mem_cons_self)
    rcases i with _ | i
    · rfl
    · obtain rfl : i = 0 := by
        rw [List.length_cons, List.length_singleton] at hi
        omega
      exact absurd hreturn (by simp [lineFeed, carriageReturn])

/-- Before a line of a file every carriage return is paired exactly if every earlier line has a line
feed. -/
theorem isPairedUpTo_lines_iff {earlier later : List (List UInt8)} {line : List UInt8}
    (hending : ∀ l ∈ earlier, IsEnding (lineEnding l))
    (hne : ∀ l ∈ earlier ++ line :: later, l ≠ [])
    (hchain : (earlier ++ line :: later).IsChain IsCut) :
    IsPairedUpTo (earlier ++ line :: later).flatten earlier.flatten.length ↔
      ∀ l ∈ earlier, lineFeed ∈ l := by
  induction earlier with
  | nil => simp [IsPairedUpTo]
  | cons first earlier ih =>
    obtain ⟨hfirst, hrest⟩ := List.forall_mem_cons.mp hending
    rw [List.cons_append] at hne hchain
    obtain ⟨hcut, htail⟩ := List.isChain_cons.mp hchain
    -- What follows the first line begins as the second one does.
    have hnext : IsCut first (earlier ++ line :: later).flatten := by
      obtain ⟨second, others, hlines⟩ :=
        List.exists_cons_of_ne_nil (show earlier ++ line :: later ≠ [] by simp)
      have hsecond : second ≠ [] := hne second (by rw [hlines]; simp)
      have hstep := hcut second (by rw [hlines]; rfl)
      rw [IsCut, hlines, List.flatten_cons, List.head?_append_of_ne_nil _ hsecond]
      exact hstep
    rw [List.cons_append, List.flatten_cons, List.flatten_cons, List.length_append,
      isPairedUpTo_append, isPairedUpTo_line_iff hfirst hnext, List.forall_mem_cons,
      ih hrest (fun l hl => hne l (List.mem_cons_of_mem _ hl)) htail]

end LabelTally.Text

namespace LabelTally.Comment

/-- There are as many offsets as lines. -/
theorem length_withOffsets (k : Nat) (ls : List (List UInt8)) :
    (withOffsets k ls).length = ls.length := by
  induction ls generalizing k with
  | nil => rfl
  | cons line rest ih => rw [withOffsets, List.length_cons, List.length_cons, ih]

/-- The lines before a line are those with smaller offsets. -/
theorem countP_withOffsets {earlier later : List (List UInt8)} (hne : ∀ l ∈ earlier, l ≠ []) :
    (withOffsets 0 (earlier ++ later)).countP (·.1 < earlier.flatten.length) = earlier.length := by
  have hbefore : ∀ l ∈ withOffsets 0 earlier, l.1 < earlier.flatten.length := by
    intro l hl
    obtain ⟨front, back, hsplit, hoffset⟩ := exists_append_of_mem_withOffsets hl
    have hpos : 0 < l.2.length :=
      List.length_pos_iff.mpr (hne l.2 (hsplit ▸ List.mem_append_right _ List.mem_cons_self))
    rw [hsplit, List.flatten_append, List.flatten_cons, List.length_append, List.length_append]
    omega
  have hbehind : ∀ l ∈ withOffsets (0 + earlier.flatten.length) later,
      ¬l.1 < earlier.flatten.length := by
    intro l hl
    obtain ⟨_, _, _, hoffset⟩ := exists_append_of_mem_withOffsets hl
    omega
  rw [withOffsets_append, List.countP_append, List.countP_eq_length.mpr (by simpa using hbefore),
    List.countP_eq_zero.mpr (by simpa using hbehind), length_withOffsets, Nat.add_zero]

end LabelTally.Comment

namespace LabelTally.Report

open Comment Text

/-- The line that is open behind bytes without line feed is the one that was open before them. -/
theorem openLine_append {left right : List UInt8} (hfree : lineFeed ∉ right) :
    openLine (left ++ right) = openLine left ++ right := by
  have hall : ∀ b ∈ right.reverse, (b != lineFeed) = true := by
    intro b hb
    rw [bne_iff_ne]
    rintro rfl
    exact hfree (List.mem_reverse.mp hb)
  rw [openLine, openLine, List.rtakeWhile, List.reverse_append, List.takeWhile_append_of_pos hall,
    List.reverse_append, List.reverse_reverse, List.rtakeWhile]

/-- What is open behind a line of a file, and before the next, is nothing or ends with a carriage
return. -/
theorem openLine_flatten {earlier later : List (List UInt8)} {line : List UInt8}
    (hending : ∀ l ∈ earlier, IsEnding (lineEnding l))
    (hchain : (earlier ++ line :: later).IsChain IsCut) :
    openLine earlier.flatten = [] ∨
      ∃ start, openLine earlier.flatten = start ++ [carriageReturn] := by
  rcases List.eq_nil_or_concat earlier with rfl | ⟨front, last, rfl⟩
  · exact Or.inl rfl
  · rw [List.concat_eq_append] at hending hchain ⊢
    have hlast := hending last (by simp)
    have hne : lineEnding last ≠ [] :=
      ((List.isChain_append.mp hchain).2.2 last (by simp) line rfl).1
    have hwhole := lineBody_append_lineEnding last
    have hfeed : ∀ bytes : List UInt8, openLine (bytes ++ [lineFeed]) = [] := fun bytes =>
      List.rtakeWhile_concat_neg _ _ _ (by simp)
    rw [List.flatten_concat, ← hwhole]
    have hbody : lineFeed ∉ lineBody last := fun hb =>
      not_isTerminator_of_mem_lineBody hb isTerminator_lineFeed
    generalize lineEnding last = ending at hlast hne
    cases hlast with
    | missing => exact absurd rfl hne
    | feed =>
      left
      rw [← List.append_assoc, hfeed]
    | carriage =>
      right
      refine ⟨openLine front.flatten ++ lineBody last, ?_⟩
      rw [openLine_append, List.append_assoc]
      simpa [lineFeed, carriageReturn] using hbody
    | both =>
      left
      rw [show [carriageReturn, lineFeed] = [carriageReturn] ++ [lineFeed] from rfl,
        ← List.append_assoc, ← List.append_assoc, hfeed]

/-- A text is shown as nothing if it consists of carriage returns. -/
theorem dropReturns_of_returns {cs : List Char} (h : ∀ c ∈ cs, c = '\r') : dropReturns cs = [] := by
  rw [dropReturns_eq, List.rdropWhile_eq_nil_iff]
  simpa using h

section Body

variable {body rest : List UInt8} (hfree : ∀ b ∈ body, ¬IsTerminator b)
  (hrest : ∀ b ∈ rest.head?, b < 0x80)
include hfree

/-- The body of a line is decoded without carriage returns. -/
theorem ne_return_of_mem_decode : ∀ c ∈ Utf8.decode body, c ≠ '\r' := by
  rintro c hc rfl
  obtain ⟨b, hb, hcode⟩ := Utf8.exists_of_mem_decode hc (by decide)
  exact hfree b hb (Or.inr (UInt8.toNat_inj.mp hcode))

include hrest

/-- The text of a line, with what stands behind it up to a line feed, is that of its body exactly if
only carriage returns stand there. -/
theorem dropReturns_decode_eq_iff :
    dropReturns (Utf8.decode (body ++ rest)) = Utf8.decode body ↔
      ∀ b ∈ rest, b = carriageReturn := by
  rw [Utf8.decode_append (Or.inr hrest)]
  constructor
  · intro h
    obtain ⟨⟨k, hk⟩, _⟩ := exists_dropReturns_append (Utf8.decode body ++ Utf8.decode rest)
    rw [h] at hk
    have hreturns : Utf8.decode rest = List.replicate k '\r' := List.append_cancel_left hk
    have hascii : ∀ b ∈ rest, b < 0x80 := by
      refine Utf8.ascii_of_decode fun c hc => ?_
      rw [hreturns] at hc
      rw [List.eq_of_mem_replicate hc]
      decide
    intro b hb
    have hchar : Char.ofNat b.toNat ∈ Utf8.decode rest := by
      rw [Utf8.decode_of_ascii hascii]
      exact List.mem_map_of_mem hb
    rw [hreturns] at hchar
    exact eq_carriageReturn_of_ofNat (hascii b hb) (List.eq_of_mem_replicate hchar)
  · intro h
    have hreturns : ∀ c ∈ Utf8.decode rest, c = '\r' := by
      have hascii : ∀ b ∈ rest, b < 0x80 := fun b hb => by
        rw [h b hb]
        decide
      rw [Utf8.decode_of_ascii hascii]
      intro c hc
      obtain ⟨b, hb, rfl⟩ := List.mem_map.mp hc
      rw [h b hb]
      rfl
    rcases List.eq_nil_or_concat (Utf8.decode body) with hempty | ⟨front, c, hbody⟩
    · rw [hempty, List.nil_append, dropReturns_of_returns hreturns]
    · rw [List.concat_eq_append] at hbody
      have hc : c ≠ '\r' := ne_return_of_mem_decode hfree c (by rw [hbody]; simp)
      rw [hbody, List.append_assoc, List.singleton_append, dropReturns_append_cons _ hc,
        dropReturns_of_returns hreturns]

/-- A carriage return before a line is shown with it. -/
theorem dropReturns_decode_behind_return (hne : body ≠ []) (start : List UInt8) :
    dropReturns (Utf8.decode (start ++ [carriageReturn] ++ body ++ rest)) ≠ Utf8.decode body := by
  obtain ⟨c, cs, hbody⟩ : ∃ c cs, Utf8.decode body = c :: cs := by
    refine List.exists_cons_of_ne_nil fun hnil => hne ?_
    have hascii : ∀ b ∈ body, b < 0x80 := Utf8.ascii_of_decode (by simp [hnil])
    rw [Utf8.decode_of_ascii hascii] at hnil
    exact List.map_eq_nil_iff.mp hnil
  have hc : c ≠ '\r' := ne_return_of_mem_decode hfree c (by rw [hbody]; simp)
  have hreturn : carriageReturn < 0x80 := by decide
  have hdecode : Utf8.decode (start ++ [carriageReturn] ++ body ++ rest) =
      Utf8.decode start ++ ['\r'] ++ c :: (cs ++ Utf8.decode rest) := by
    rw [List.append_assoc, List.append_assoc, List.singleton_append,
      Utf8.decode_append (Or.inr (by simpa using hreturn)), Utf8.decode_cons_of_ascii hreturn,
      Utf8.decode_append (Or.inr hrest), hbody]
    simp [carriageReturn]
  intro h
  rw [hdecode, dropReturns_append_cons _ hc] at h
  exact ne_return_of_mem_decode hfree '\r' (by rw [← h]; simp) rfl

end Body

section Lines

variable {earlier later : List (List UInt8)} {line : List UInt8}
  (hending : ∀ l ∈ earlier ++ line :: later, IsEnding (lineEnding l))
  (hne : ∀ l ∈ earlier ++ line :: later, l ≠ [])
  (hchain : (earlier ++ line :: later).IsChain IsCut)

include hending

/-- The line in which a match is shown, from the lines that the scan cuts the file into. -/
theorem locate_span_eq {p : Nat} {m : Match}
    (h : Reports marker line earlier.flatten.length p m) :
    (locate (earlier ++ line :: later).flatten m.span).line = earlier.flatten.count lineFeed + 1 ∧
      (locate (earlier ++ line :: later).flatten m.span).text =
        dropReturns (Utf8.decode (openLine earlier.flatten ++ lineBody line ++
          restOfLine (lineEnding line ++ later.flatten))) := by
  obtain ⟨ahead, part, behind, hbody, hspan, hshown⟩ :=
    isShownIn_of_reports h (hending line (by simp)) .whole (lineEnding line ++ later.flatten)
  have hfree : ∀ piece : List UInt8, piece ⊆ lineBody line → lineFeed ∉ piece := fun _ hsub hb =>
    not_isTerminator_of_mem_lineBody (hsub hb) isTerminator_lineFeed
  have hahead : lineFeed ∉ ahead := hfree ahead (by rw [hbody]; simp)
  have hbehind : lineFeed ∉ behind := hfree behind (by rw [hbody]; simp)
  have hdata : (earlier ++ line :: later).flatten = earlier.flatten ++ ahead ++ part ++
      (behind ++ (lineEnding line ++ later.flatten)) := by
    calc (earlier ++ line :: later).flatten
        = earlier.flatten ++ (lineBody line ++ lineEnding line ++ later.flatten) := by
          rw [lineBody_append_lineEnding, List.flatten_append, List.flatten_cons]
      _ = _ := by
          rw [hbody]
          simp only [List.append_assoc]
  rw [hdata, hspan, locate_append _ _ _ hshown.free, openLine_append hahead,
    restOfLine_append hbehind, List.count_append, List.count_eq_zero.mpr hahead, hbody]
  simp only [List.append_assoc, Nat.add_zero, and_self]

include hne hchain

/-- Before a line there are as many line feeds as lines exactly if every carriage return there is
followed by a line feed. -/
theorem count_lineFeed_eq_iff :
    earlier.flatten.count lineFeed + 1 =
        1 + (withOffsets 0 (earlier ++ line :: later)).countP (·.1 < earlier.flatten.length) ↔
      IsPairedUpTo (earlier ++ line :: later).flatten earlier.flatten.length := by
  have hearlier : ∀ l ∈ earlier, IsEnding (lineEnding l) := fun l hl =>
    hending l (List.mem_append_left _ hl)
  rw [countP_withOffsets fun l hl => hne l (List.mem_append_left _ hl), Nat.add_comm,
    Nat.add_left_cancel_iff, (count_lineFeed_flatten hearlier).2,
    isPairedUpTo_lines_iff hearlier hne hchain]

omit hne in
/-- What stands behind the body of a line begins with a byte below 128. -/
theorem head?_restOfLine_lt : ∀ b ∈ (restOfLine (lineEnding line ++ later.flatten)).head?,
    b < 0x80 := by
  intro b hb
  have hstart : restOfLine (lineEnding line ++ later.flatten) <+:
      lineEnding line ++ later.flatten := List.takeWhile_prefix _
  have hhead : (lineEnding line ++ later.flatten).head? = some b := by
    obtain ⟨tail, htail⟩ := hstart
    rw [← htail, List.head?_append, Option.mem_def.mp hb]
    rfl
  cases hlast : lineEnding line with
  | nil =>
    -- Without a terminator the line is the last one.
    obtain rfl : later = [] := by
      cases later with
      | nil => rfl
      | cons next later =>
        have hcut := (List.isChain_append.mp hchain).2.1
        exact absurd hlast (List.isChain_cons_cons.mp hcut).1.1
    rw [hlast] at hhead
    cases hhead
  | cons c ending =>
    rw [hlast] at hhead
    cases hhead
    rcases (hending line (by simp)).isTerminator b (by rw [hlast]; simp) with rfl | rfl
    · decide
    · decide

omit hne in
/-- The text shown for a line is that of its body exactly if it begins behind a line feed and only
carriage returns stand behind the body. -/
theorem dropReturns_decode_line_iff (hbody : lineBody line ≠ []) :
    dropReturns (Utf8.decode (openLine earlier.flatten ++ lineBody line ++
        restOfLine (lineEnding line ++ later.flatten))) = Utf8.decode (lineBody line) ↔
      openLine earlier.flatten = [] ∧
        ∀ b ∈ restOfLine (lineEnding line ++ later.flatten), b = carriageReturn := by
  have hfree : ∀ b ∈ lineBody line, ¬IsTerminator b := fun b => not_isTerminator_of_mem_lineBody
  have hhead := head?_restOfLine_lt hending hchain
  rcases openLine_flatten (fun l hl => hending l (List.mem_append_left _ hl)) hchain with
    hopen | ⟨start, hopen⟩
  · rw [hopen, List.nil_append, dropReturns_decode_eq_iff hfree hhead]
    simp
  · rw [hopen]
    refine iff_of_false (dropReturns_decode_behind_return hfree hhead hbody start) ?_
    simp

end Lines

/-- Scan and report agree on the number of the line of a match exactly if every carriage return
before the line belongs to a line feed, and on its text exactly if the line begins behind a line
feed or at the start of the file, and only carriage returns stand between its body and the next line
feed. -/
theorem locate_agrees_iff {data : List UInt8} {l : Nat × List UInt8}
    (hl : l ∈ markerLines marker data) {found : List Match}
    (hscan : scanLine marker l.1 l.2 = .ok found) {m : Match} (hm : m ∈ found) {s : Sources}
    {path : Path} (hkept : s.kept? path = some data) (fs : FileTree.FileSystem) :
    ∃ place, s.locate fs ⟨path, m.span⟩ = .ok (place, s) ∧
      (place.line = 1 + (withOffsets 0 (lines data)).countP (·.1 < l.1) ↔
        IsPairedUpTo data l.1) ∧
      (place.text = Utf8.decode (lineBody l.2) ↔
        openLine (data.take l.1) = [] ∧
          ∀ b ∈ restOfLine (data.drop (l.1 + (lineBody l.2).length)), b = carriageReturn) := by
  refine ⟨locate data m.span, Sources.locate_of_kept hkept fs, ?_⟩
  obtain ⟨p, hreports⟩ := exists_reports_of_scanLine hscan m hm
  obtain ⟨earlier, later, hlines, hoffset⟩ :=
    exists_append_of_mem_withOffsets (mem_markerLines.mp hl).1
  rw [Nat.zero_add] at hoffset
  rw [hoffset] at hreports
  have hdata : data = (earlier ++ l.2 :: later).flatten := by rw [← hlines, flatten_lines]
  have hending : ∀ line ∈ earlier ++ l.2 :: later, IsEnding (lineEnding line) := fun line hline =>
    isEnding_lines (hlines ▸ hline)
  have hne : ∀ line ∈ earlier ++ l.2 :: later, line ≠ [] := fun line hline =>
    ne_nil_of_mem_lines (hlines ▸ hline)
  have hchain : (earlier ++ l.2 :: later).IsChain IsCut := hlines ▸ isChain_lines data
  have hbody : lineBody l.2 ≠ [] := by
    obtain ⟨left, right, hstands⟩ := hreports.exists_stands (hending l.2 (by simp))
    exact hstands.ne_nil
  have htake : data.take l.1 = earlier.flatten := by
    rw [hdata, hoffset, List.flatten_append, List.take_left]
  have hdrop : data.drop (l.1 + (lineBody l.2).length) = lineEnding l.2 ++ later.flatten := by
    have hsplit : data = earlier.flatten ++ lineBody l.2 ++ (lineEnding l.2 ++ later.flatten) := by
      rw [hdata, List.flatten_append, List.flatten_cons, List.append_assoc,
        ← List.append_assoc (lineBody l.2), lineBody_append_lineEnding]
    rw [hsplit, hoffset, ← List.length_append, List.drop_left]
  obtain ⟨hline, htext⟩ := locate_span_eq hending hreports
  rw [htake, hdrop, hlines, hdata, hline, htext, hoffset]
  exact ⟨count_lineFeed_eq_iff hending hne hchain, dropReturns_decode_line_iff hending hchain hbody⟩

/-- Behind a lone carriage return they agree on neither: `a`, a carriage return, `CODESYNC(x)` and a
line feed are two lines of the scan and one of the report. -/
theorem locate_disagrees_behind_return :
    ∃ place, Sources.locate ⟨⟨[⟨Path.fromRoot ["a"], [], some [97, 13, 67, 79, 68, 69, 83, 89, 78,
        67, 40, 120, 41, 10]⟩]⟩, []⟩ default ⟨Path.fromRoot ["a"], ⟨2, 13⟩⟩ =
        .ok (place, ⟨⟨[⟨Path.fromRoot ["a"], [], some [97, 13, 67, 79, 68, 69, 83, 89, 78, 67, 40,
          120, 41, 10]⟩]⟩, []⟩) ∧
      place.line ≠ 1 + (withOffsets 0 (lines [97, 13, 67, 79, 68, 69, 83, 89, 78, 67, 40, 120, 41,
        10])).countP (·.1 < 2) ∧
      place.text ≠ Utf8.decode (lineBody [67, 79, 68, 69, 83, 89, 78, 67, 40, 120, 41, 10]) := by
  have hlines : markerLines marker [97, 13, 67, 79, 68, 69, 83, 89, 78, 67, 40, 120, 41, 10] =
      [(2, [67, 79, 68, 69, 83, 89, 78, 67, 40, 120, 41, 10])] := by cbv
  have hscan : scanLine marker (2 : Nat) [67, 79, 68, 69, 83, 89, 78, 67, 40, 120, 41, 10] =
      .ok [⟨2, .valid ⟨⟨"x", "x", 11, 12⟩, none, 3⟩, 8⟩] := by cbv
  have hkept : Sources.kept? ⟨⟨[⟨Path.fromRoot ["a"], [], some [97, 13, 67, 79, 68, 69, 83, 89, 78,
      67, 40, 120, 41, 10]⟩]⟩, []⟩ (Path.fromRoot ["a"]) =
        some [97, 13, 67, 79, 68, 69, 83, 89, 78, 67, 40, 120, 41, 10] := rfl
  obtain ⟨place, hplace, hline, htext⟩ := locate_agrees_iff (hlines ▸ List.mem_singleton_self _)
    hscan (List.mem_singleton_self _) hkept default
  refine ⟨place, hplace, mt hline.mp fun hpaired => ?_, mt htext.mp fun hbegins => ?_⟩
  · exact absurd (hpaired 1 (by decide) rfl) (by decide)
  · exact absurd hbegins.1 (by decide)

end LabelTally.Report
