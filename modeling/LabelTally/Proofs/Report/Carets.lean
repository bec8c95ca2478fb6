import LabelTally.Proofs.Check.Locations
import LabelTally.Proofs.Collection.Gather
import LabelTally.Proofs.Report.Layout

/-!
# Where the carets stand

Columns count the characters of the line of a file, but some of them are left out when the line is
shown. Each that is left out before the blamed text moves the text to the left by one, and the
carets stay, so they stand below the blamed text exactly if none of it is left out and it stands
again as many characters further on as are left out before it.
-/

namespace LabelTally.Report

open Comment Text

/-- The characters of a line that have a caret below them. -/
def underlined (source carets : List Char) : List Char :=
  ((source.zip carets).filter (·.2 == '^')).map (·.1)

/-- Below equally long gutters, only what stands behind them counts. -/
theorem underlined_append {gutter gutter' : List Char} (hlength : gutter.length = gutter'.length)
    (hnone : '^' ∉ gutter') (source carets : List Char) :
    underlined (gutter ++ source) (gutter' ++ carets) = underlined source carets := by
  rw [underlined, List.zip_append hlength, List.filter_append, List.filter_eq_nil_iff.mpr,
    List.nil_append, underlined]
  rintro ⟨c, d⟩ hmem hd
  rw [beq_iff_eq] at hd
  exact hnone (hd ▸ (List.of_mem_zip hmem).2)

/-- Carets in a row stand below characters in a row. -/
theorem underlined_replicate (source : List Char) (blank width : Nat) :
    underlined source (List.replicate blank ' ' ++ List.replicate width '^') =
      (source.drop blank).take width := by
  induction blank generalizing source with
  | zero =>
    rw [List.replicate_zero, List.nil_append, List.drop_zero]
    induction width generalizing source with
    | zero => simp [underlined]
    | succ width ih =>
      cases source with
      | nil => rfl
      | cons c rest => simpa [underlined, List.replicate_succ] using ih rest
  | succ blank ih =>
    cases source with
    | nil => simp [underlined]
    | cons c rest => simpa [underlined, List.replicate_succ] using ih rest

/-- A text stands again so many characters further on, in what it stands before. -/
def RecursAt (n : Nat) (text behind : List Char) : Prop := text <+: (text ++ behind).drop n

theorem recursAt_zero (text behind : List Char) : RecursAt 0 text behind :=
  List.prefix_append _ _

/-- Behind so many characters of the shown line stands the text itself exactly if none of it is left
out and it stands there again. -/
theorem take_drop_strip_eq_iff (n : Nat) (text behind : List Char) :
    ((strip (text ++ behind)).drop n).take text.length = text ↔
      (∀ c ∈ text, isStripped c = false) ∧ RecursAt n text (strip behind) := by
  have hsplit : (∀ c ∈ text, isStripped c = false) →
      strip (text ++ behind) = text ++ strip behind := fun hclean => by
    rw [strip_append, strip_eq_self_iff.mpr hclean]
  constructor
  · intro h
    have hclean : ∀ c ∈ text, isStripped c = false := by
      intro c hc
      rw [← h] at hc
      exact isStripped_of_mem_strip (List.mem_of_mem_drop (List.mem_of_mem_take hc))
    rw [hsplit hclean] at h
    exact ⟨hclean, List.prefix_iff_eq_take.mpr h.symm⟩
  · rintro ⟨hclean, hrecurs⟩
    rw [hsplit hclean]
    exact (List.prefix_iff_eq_take.mp hrecurs).symm

/-- In a line that is shown behind a gutter, the carets below a text stand below it exactly if none
of it is left out and it stands again as many characters further on as are left out before it. -/
theorem underlined_line_iff {gutter gutter' : List Char} (hlength : gutter.length = gutter'.length)
    (hnone : '^' ∉ gutter') (front text behind : List Char) :
    underlined (gutter ++ strip (front ++ (text ++ behind)))
        (gutter' ++ (List.replicate front.length ' ' ++ List.replicate text.length '^')) = text ↔
      (∀ c ∈ text, isStripped c = false) ∧
        RecursAt (front.countP isStripped) text (strip behind) := by
  rw [underlined_append hlength hnone, underlined_replicate, strip_append front,
    ← length_strip front, ← List.drop_drop, List.drop_left, take_drop_strip_eq_iff]

/-- The text that is blamed: what the bytes of a span decode to, or the character at its start if
that is nothing. -/
def blamed (data : List UInt8) (span : Span) : List Char :=
  match Utf8.decode (slice data span.start.toNat span.stop.toNat) with
  | [] => (Utf8.decode (data.drop span.start.toNat)).take 1
  | c :: cs => c :: cs

/-- The characters of the line of a position before it. -/
def lineBefore (data : List UInt8) (position : Nat) : List Char :=
  Utf8.decode (openLine (data.take position))

/-- The characters of the line of a position from it on. -/
def lineFrom (data : List UInt8) (position : Nat) : List Char :=
  Utf8.decode (restOfLine (data.drop position))

/-- A place points at a span of a file: the blamed text stands in the line at the column. -/
structure Located.Points (found : Located) (data : List UInt8) (span : Span) : Prop where
  /-- The line is the one behind so many line feeds. -/
  line : found.line = 1 + (data.take span.start.toNat).count lineFeed
  /-- The text is that of the line, apart from what is left out. -/
  text : strip found.text =
    strip (lineBefore data span.start.toNat ++ lineFrom data span.start.toNat)
  /-- The column is behind what stands before the span. -/
  column : found.column = (lineBefore data span.start.toNat).length + 1
  /-- The width is that of the blamed text. -/
  width : found.width = (blamed data span).length
  /-- The blamed text stands at the start of the span. -/
  starts : blamed data span <+: lineFrom data span.start.toNat

/-- A block shows a span of a file. -/
structure Block.Shows (b : Block) (data : List UInt8) (span : Span) : Prop where
  /-- The number of the line stands at the right of its gutter. -/
  number : ∃ k, b.numberGutter = List.replicate k ' ' ++
    (toString (1 + (data.take span.start.toNat).count lineFeed)).toList ++ [' ', '|', ' ']
  /-- The other gutter is blank. -/
  blank : ∃ k, b.caretGutter = List.replicate k ' ' ++ [' ', '|', ' ']
  /-- The gutters are equally long. -/
  gutters : b.numberGutter.length = b.caretGutter.length
  /-- The line is shown without the characters that are left out. -/
  source : b.source =
    strip (lineBefore data span.start.toNat ++ lineFrom data span.start.toNat)
  /-- There are as many carets as characters are blamed, behind as many blanks as characters stand
  before them in the file. -/
  carets : b.carets = List.replicate (lineBefore data span.start.toNat).length ' ' ++
    List.replicate (blamed data span).length '^'
  /-- The carets stand below the blamed text if nothing is left out up to its end. -/
  aligned : (∀ c ∈ lineBefore data span.start.toNat ++ blamed data span, isStripped c = false) →
    underlined (b.numberGutter ++ b.source) (b.caretGutter ++ b.carets) = blamed data span
  /-- They do so exactly if none of it is left out and it stands again as many characters further on
  as are left out before it. -/
  aligned_iff :
    underlined (b.numberGutter ++ b.source) (b.caretGutter ++ b.carets) = blamed data span ↔
      (∀ c ∈ blamed data span, isStripped c = false) ∧
        RecursAt ((lineBefore data span.start.toNat).countP isStripped) (blamed data span)
          (strip ((lineFrom data span.start.toNat).drop (blamed data span).length))

/-- If the line number fits, both gutters of a block are equally long. -/
theorem length_numberGutter {gutter : Nat} (path : String) {l : Located}
    (h : (toString l.line).length ≤ gutter) :
    (block gutter path l).numberGutter.length = (block gutter path l).caretGutter.length := by
  simp only [block, List.length_append, List.length_replicate, String.length_toList]
  omega

/-- The gutter before the carets has no caret. -/
theorem caret_notMem_caretGutter (gutter : Nat) (path : String) (l : Located) :
    '^' ∉ (block gutter path l).caretGutter := by
  simp [block]

/-- Carriage returns are left out anyway. -/
theorem strip_dropReturns (cs : List Char) : strip (dropReturns cs) = strip cs := by
  obtain ⟨⟨k, hk⟩, _⟩ := exists_dropReturns_append cs
  have hnone : strip (List.replicate k '\r') = [] := by
    refine List.filter_eq_nil_iff.mpr fun c hc => ?_
    rw [List.eq_of_mem_replicate hc]
    decide
  conv_rhs => rw [hk, strip_append, hnone, List.append_nil]

section Shown

variable {before part after : List UInt8} (h : IsShown before part after)

theorem lineBefore_append (before rest : List UInt8) :
    lineBefore (before ++ rest) before.length = Utf8.decode (openLine before) := by
  rw [lineBefore, List.take_left]

include h

/-- From the start of a part on, its line is decoded in two parts. -/
theorem IsShown.lineFrom_eq :
    lineFrom (before ++ part ++ after) before.length =
      Utf8.decode part ++ Utf8.decode (restOfLine after) := by
  have halone : IsShown [] part after := ⟨h.free, Or.inl (by simp), h.closes⟩
  rw [lineFrom, List.append_assoc, List.drop_left, restOfLine_append h.free]
  exact halone.decode_line

/-- The line goes on from the start of a part with the text that is blamed. -/
theorem IsShown.blamed_spec :
    (blamed (before ++ part ++ after) ⟨before.length, before.length + part.length⟩).length =
        max (Utf8.decode part).length 1 ∧
      blamed (before ++ part ++ after) ⟨before.length, before.length + part.length⟩ <+:
        lineFrom (before ++ part ++ after) before.length := by
  have hslice : slice (before ++ part ++ after) (before.length : Int).toNat
      ((before.length : Int) + part.length).toNat = part := slice_append before part after
  have hfrom : (before ++ part ++ after).drop (before.length : Int).toNat = part ++ after := by
    rw [Int.toNat_natCast, List.append_assoc, List.drop_left]
  rw [h.lineFrom_eq, blamed, hslice, hfrom]
  cases hpart : Utf8.decode part with
  | cons c cs => exact ⟨by simp, List.prefix_append _ _⟩
  | nil =>
    -- Nothing is decoded of the part, so what holds the end of the line away stands behind it.
    obtain ⟨b, rest, hafter, hpivot⟩ : ∃ b rest, after = b :: rest ∧ IsPivot b := by
      rcases h.closes with ⟨b, hb, hpivot⟩ | ⟨b, hb, hpivot⟩
      · obtain ⟨inner, rfl⟩ := List.getLast?_eq_some_iff.mp hb
        rw [Utf8.decode_append (Or.inr (by simpa using hpivot.1)),
          Utf8.decode_cons_of_ascii hpivot.1] at hpart
        simp at hpart
      · obtain ⟨rest, hrest⟩ := List.head?_eq_some_iff.mp hb
        exact ⟨b, rest, hrest, hpivot⟩
    have hseam : Utf8.IsSeam part (b :: rest) := Or.inr (by simpa using hpivot.1)
    rw [hafter, Utf8.decode_append hseam, hpart, hpivot.restOfLine_cons,
      Utf8.decode_cons_of_ascii hpivot.1, Utf8.decode_cons_of_ascii hpivot.1]
    simp

/-- A part that can be shown is pointed at. -/
theorem IsShown.points :
    (locate (before ++ part ++ after) ⟨before.length, before.length + part.length⟩).Points
      (before ++ part ++ after) ⟨before.length, before.length + part.length⟩ := by
  obtain ⟨hwidth, hstarts⟩ := h.blamed_spec
  have hbefore : lineBefore (before ++ part ++ after) (before.length : Int).toNat =
      Utf8.decode (openLine before) := by
    rw [Int.toNat_natCast, List.append_assoc, lineBefore_append]
  have hfrom : lineFrom (before ++ part ++ after) (before.length : Int).toNat =
      Utf8.decode part ++ Utf8.decode (restOfLine after) := h.lineFrom_eq
  rw [h.locate_eq]
  refine ⟨?_, ?_, ?_, hwidth.symm, hstarts⟩
  · dsimp only
    rw [Int.toNat_natCast, List.append_assoc, List.take_left, Nat.add_comm]
  · rw [hbefore, hfrom, strip_append, strip_dropReturns, ← strip_append, List.append_assoc]
  · rw [hbefore]

end Shown

/-- The block of a place that points at a span shows it, if the line number fits in its gutter. -/
theorem Located.Points.shows_block {found : Located} {data : List UInt8} {span : Span}
    (h : found.Points data span) {gutter : Nat} (hgutter : (toString found.line).length ≤ gutter)
    (path : String) : (block gutter path found).Shows data span := by
  obtain ⟨behind, hbehind⟩ := h.starts
  have hgutters := length_numberGutter path hgutter
  have hcarets : (block gutter path found).carets =
      List.replicate (lineBefore data span.start.toNat).length ' ' ++
        List.replicate (blamed data span).length '^' := by
    rw [block, h.column, h.width, Nat.add_sub_cancel]
  have haligned := underlined_line_iff hgutters (caret_notMem_caretGutter gutter path found)
    (lineBefore data span.start.toNat) (blamed data span) behind
  rw [hbehind, ← h.text, ← hcarets] at haligned
  refine ⟨⟨gutter - (toString found.line).length, ?_⟩, ⟨gutter, rfl⟩, hgutters, h.text, hcarets,
    fun hclean => haligned.mpr ⟨fun c hc => hclean c (List.mem_append_right _ hc), ?_⟩, ?_⟩
  · rw [block, h.line]
  · have hzero : (lineBefore data span.start.toNat).countP isStripped = 0 :=
      List.countP_eq_zero.mpr fun c hc => by simp [hclean c (List.mem_append_left _ hc)]
    rw [hzero]
    exact recursAt_zero _ _
  · rw [← hbehind, List.drop_left]
    exact haligned

/-- A place that a match can be blamed for has its bytes in the collection, and points at them. -/
theorem exists_points_of_isBlamed {c : Collection} (hread : c.IsRead (scan marker))
    {l : Check.Location} (hl : l.IsBlamed c) :
    ∃ file ∈ c.files, file.path = l.path ∧
      ∃ data, file.content = some data ∧ (locate data l.span).Points data l.span := by
  obtain ⟨file, hfile, m, hm, hpath, hspan⟩ := hl
  obtain ⟨data, hdata, hscan⟩ := hread.read file hfile (List.ne_nil_of_mem hm)
  rw [scan_eq_scanLines] at hscan
  obtain ⟨line, hline, p, hreports⟩ := exists_reports_of_scanLines hscan m hm
  refine ⟨file, hfile, hpath, data, hdata, ?_⟩
  obtain ⟨before, part, after, rfl, hplace, hshown⟩ :=
    exists_isShown_of_reports hreports hline hspan
  rw [hplace]
  exact hshown.points

/-- What holds of the block of each place holds of the blocks of all places, path by path. -/
theorem forall₂_blocks {R : Check.Location → Block → Prop} {gutter : Nat}
    {place : Check.Location → Located} {locations : List Check.Location} {shown : List String}
    (hlength : shown.length = locations.length)
    (h : ∀ l ∈ locations, ∀ path, R l (block gutter path (place l))) :
    List.Forall₂ R locations
      ((shown.zip (locations.map place)).map fun p => block gutter p.1 p.2) := by
  induction locations generalizing shown with
  | nil => simp
  | cons l rest ih =>
    cases shown with
    | nil => cases hlength
    | cons path more =>
      obtain ⟨hl, hrest⟩ := List.forall_mem_cons.mp h
      exact .cons (hl path) (ih (Nat.succ.inj hlength) hrest)

/-- Every finding about a gathered collection is shown with one block for each of its places. The
gutters of a block are equally long, and the carets stand below the blamed text exactly if none of
it is left out and it stands again as many characters further on as are left out before it. -/
theorem render_carets_iff {fs : FileTree.FileSystem} (hfs : fs.root.IsDistinct) {root : Path}
    {walk : FileTree.WalkOptions} {c : Collection}
    (hgather : (gather fs (scan marker) root walk).result = .ok c) {o : Check.Options}
    {f : Check.Finding} (hf : f ∈ (Check.run o c).findings) (others : List (Path × List UInt8))
    {now : FileTree.FileSystem} {shown : List String}
    (hshown : displayAll now (f.locations.map (·.path)) = .ok shown) :
    ∃ t blocks remarks,
      render now ⟨c, others⟩ (ofFinding f) = (⟨c, others⟩, .ok t) ∧
      t.plain = (heading (ofFinding f)).plain ++ blocks.flatMap Block.text ++ remarks ∧
      List.Forall₂ (fun l b => ∃ file ∈ c.files, file.path = l.path ∧
        ∃ data, file.content = some data ∧ Block.Shows b data l.span) f.locations blocks := by
  have hread := isRead_of_gather hfs hgather
  have hpoints : ∀ l ∈ f.locations, _ := fun l hl =>
    exists_points_of_isBlamed hread (Check.isBlamed_of_mem_run hf hl)
  have hkept : ∀ l ∈ f.locations, ∀ file ∈ c.files, file.path = l.path →
      Sources.kept? ⟨c, others⟩ l.path = file.content := by
    intro l _ file hfile hpath
    rw [← hpath]
    exact Sources.kept?_of_mem hread.distinct hfile
  have hsome : ∀ l ∈ f.locations, (Sources.kept? ⟨c, others⟩ l.path).isSome := by
    intro l hl
    obtain ⟨file, hfile, hpath, data, hdata, _⟩ := hpoints l hl
    rw [hkept l hl file hfile hpath, hdata]
    rfl
  have hlength : shown.length = f.locations.length := by
    rw [length_displayAll hshown, List.length_map]
  obtain ⟨remarks, hplain⟩ := exists_plain_layOut (ofFinding f)
    (shown.zip (f.locations.map (Sources.place ⟨c, others⟩)))
  refine ⟨_, _, remarks, render_of_kept hsome hshown, hplain, ?_⟩
  rw [List.map_snd_zip (by simp [hlength])]
  refine forall₂_blocks hlength fun l hl path => ?_
  obtain ⟨file, hfile, hpath, data, hdata, hpoint⟩ := hpoints l hl
  refine ⟨file, hfile, hpath, data, hdata, ?_⟩
  have hplace : Sources.place ⟨c, others⟩ l = locate data l.span := by
    rw [Sources.place, hkept l hl file hfile hpath, hdata, Option.getD_some]
  have hfits := length_le_gutterWidth
    (List.mem_map_of_mem hl : Sources.place ⟨c, others⟩ l ∈ f.locations.map _)
  rw [hplace] at hfits ⊢
  exact hpoint.shows_block hfits path

/-- A form feed, a marker and a line feed. -/
def formFeedBytes : List UInt8 := [12, 67, 79, 68, 69, 83, 89, 78, 67, 10]

/-- A tree with one file, whose marker stands behind a form feed. -/
def formFeedTree : FileTree.FileSystem := ⟨.directory [("a.c", .file formFeedBytes)], []⟩

/-- The form feed before a marker is left out, so the carets stand one character too far to the
right to be below the marker. -/
theorem render_misses_behind_formFeed :
    ∃ c f t b remarks,
      (gather formFeedTree (scan marker) Path.here ⟨false, []⟩).result = .ok c ∧
      f ∈ (Check.run {} c).findings ∧
      render formFeedTree ⟨c, []⟩ (ofFinding f) = (⟨c, []⟩, .ok t) ∧
      t.plain = (heading (ofFinding f)).plain ++ Block.text b ++ remarks ∧
      b.numberGutter.length = b.caretGutter.length ∧
      underlined (b.numberGutter ++ b.source) (b.caretGutter ++ b.carets) ≠
        ['C', 'O', 'D', 'E', 'S', 'Y', 'N', 'C'] := by
  have hdistinct : formFeedTree.root.IsDistinct := by
    simp [formFeedTree, FileTree.Node.IsDistinct, FileTree.Node.AreDistinct]
  have hgather : (gather formFeedTree (scan marker) Path.here ⟨false, []⟩).result =
      .ok ⟨[⟨⟨.workDir, ["a.c"]⟩, [⟨1, .malformed, 8⟩], some formFeedBytes⟩]⟩ := by cbv
  have hrun : (Check.run {} ⟨[⟨⟨.workDir, ["a.c"]⟩, [⟨1, .malformed, 8⟩],
      some formFeedBytes⟩]⟩).findings = [⟨.malformed, "malformed codesync comment",
        [⟨⟨.workDir, ["a.c"]⟩, ⟨1, 9⟩⟩], [Check.malformedNote], none⟩] := by cbv
  have hshown : displayAll formFeedTree [⟨.workDir, ["a.c"]⟩] = .ok ["a.c"] := by cbv
  have hblamed : blamed formFeedBytes ⟨1, 9⟩ = ['C', 'O', 'D', 'E', 'S', 'Y', 'N', 'C'] := by cbv
  have hbefore : lineBefore formFeedBytes 1 = ['\x0c'] := by cbv
  have hfrom : lineFrom formFeedBytes 1 = ['C', 'O', 'D', 'E', 'S', 'Y', 'N', 'C'] := by cbv
  obtain ⟨t, blocks, remarks, hrender, hplain, hblocks⟩ :=
    render_carets_iff hdistinct hgather (hrun ▸ List.mem_singleton_self _) [] hshown
  obtain ⟨b, _, ⟨file, hfile, _, data, hdata, hshows⟩, hnone, rfl⟩ :=
    List.forall₂_cons_left_iff.mp hblocks
  obtain rfl := List.forall₂_nil_left_iff.mp hnone
  obtain rfl := List.mem_singleton.mp hfile
  cases hdata
  refine ⟨_, _, t, b, remarks, hgather, hrun ▸ List.mem_singleton_self _, hrender, ?_,
    hshows.gutters, fun haligned => ?_⟩
  · simpa using hplain
  · have hrecurs := (hshows.aligned_iff.mp (haligned.trans hblamed.symm)).2
    rw [hblamed, show (1 : Int).toNat = 1 from rfl, hbefore, hfrom] at hrecurs
    revert hrecurs
    unfold RecursAt
    decide

end LabelTally.Report
