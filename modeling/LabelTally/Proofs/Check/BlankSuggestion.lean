import LabelTally.Check.Rules
import LabelTally.Proofs.Comment.Replacement
import LabelTally.Proofs.Text.Encoding

/-!
# Following the suggestion for blanks

The finding for an argument with blanks around it suggests the text without them. Written in the
place of the argument, the suggestion separates from the rest of the list as the argument did: it
has no byte below 128 that the argument did not have, and a count has only digits left. So the list
tells the same, and so do all other matches of the line.
-/

namespace LabelTally

/-- The bytes with those of a span replaced. -/
def Span.replaced (s : Span) (new data : List UInt8) : List UInt8 :=
  data.take s.start.toNat ++ new ++ data.drop s.stop.toNat

/-- A part of some bytes is replaced between what stands before and after it. -/
theorem Span.replaced_eq {s : Span} {data : List UInt8} (before part after new : List UInt8)
    (hdata : data = before ++ part ++ after) (hstart : s.start = before.length)
    (hstop : s.stop = before.length + part.length) :
    s.replaced new data = before ++ new ++ after := by
  have hlength : ((before.length : Int) + part.length).toNat = (before ++ part).length := by
    rw [List.length_append]
    omega
  rw [replaced, hstart, hstop, hlength, Int.toNat_natCast, hdata, List.drop_left,
    List.append_assoc before part, List.take_left]

namespace Comment

open Decimal Occurrence Text

/-- The line with an argument written without the blanks around it. -/
def Arg.mended {α : Type} (a : Arg α) (line : List UInt8) : List UInt8 :=
  a.span.replaced (Utf8.encode a.trimmed.toList) line

/-- The bytes of an argument without the blanks around it. -/
def tidied (raw : List UInt8) : List UInt8 := Utf8.encode (trim (Utf8.decode raw))

/-- The text of a tidied argument. -/
theorem decode_tidied (raw : List UInt8) : Utf8.decode (tidied raw) = trim (Utf8.decode raw) :=
  Utf8.decode_encode _

/-- An argument means what it did without the blanks around it. -/
theorem trim_decode_tidied (raw : List UInt8) :
    trim (Utf8.decode (tidied raw)) = trim (Utf8.decode raw) := by
  rw [decode_tidied, trim_trim]

/-- Tidying brings in no byte below 128. -/
theorem mem_of_mem_tidied {raw : List UInt8} {b : UInt8} (hb : b ∈ tidied raw)
    (hascii : b.toNat < 0x80) : b ∈ raw := by
  obtain ⟨c, hc, hcb⟩ := Utf8.exists_of_mem_encode hb hascii
  obtain ⟨b', hb', hbc⟩ := Utf8.exists_of_mem_decode (mem_of_mem_trim hc) (by omega)
  rw [hcb, UInt8.toNat_inj] at hbc
  exact hbc ▸ hb'

/-- A tidied argument has no blanks around it. -/
theorem hasExtraBlanks_tidied {α : Type} (value : α) (raw : List UInt8) (span : Span) :
    (Arg.mk value (String.ofList (Utf8.decode (tidied raw))) span).hasExtraBlanks = false := by
  rw [Arg.hasExtraBlanks, trimmed_ofList, trim_decode_tidied, decode_tidied]
  simp

namespace ArgumentBytes

variable {a : ArgumentBytes} {c : CountBytes} {start : Int} {args : Args}

/-- The argument list with a tidied label. -/
def tidyLabel (a : ArgumentBytes) : ArgumentBytes := { a with label := tidied a.label }

/-- The argument list with a tidied second argument. -/
def tidyCount (a : ArgumentBytes) (c : CountBytes) : ArgumentBytes :=
  { a with count := some { c with raw := tidied c.raw } }

/-- A tidied label ends where the label did. -/
theorem WellFormed.tidyLabel (h : a.WellFormed) : a.tidyLabel.WellFormed where
  label b hb := by
    constructor
    · rintro rfl
      exact (h.label comma (mem_of_mem_tidied hb (by decide))).1 rfl
    · rintro rfl
      exact (h.label closeParen (mem_of_mem_tidied hb (by decide))).2 rfl
  count := h.count
  space := h.space

/-- A tidied count ends where the count did, and does not begin with a space. -/
theorem WellFormed.tidyCount (h : a.WellFormed) (hcount : a.count = some c)
    (hdigits : isDigitRun (trim (Utf8.decode c.raw)) = true) : (a.tidyCount c).WellFormed where
  label := h.label
  count := by
    rintro c' ⟨⟩ hmem
    exact h.count c hcount (mem_of_mem_tidied hmem (by decide))
  space := by
    rintro c' ⟨⟩ _ hhead
    obtain ⟨d, hd, hcode⟩ := Utf8.exists_of_mem_encode (List.mem_of_mem_head? hhead) (by decide)
    rw [isDigitRun, Bool.and_eq_true] at hdigits
    have hdigit := List.all_eq_true.mp hdigits.2 d hd
    rw [Char.isDigit_iff_toNat, hcode] at hdigit
    exact absurd hdigit (by decide)

/-- The label of a valid list. -/
theorem Means.label_eq (h : a.Means start (.valid args)) : args.label = a.labelArg start := by
  cases h <;> rfl

/-- The count of a valid list. -/
theorem Means.count_eq (h : a.Means start (.valid args)) {count : Arg Nat}
    (hcount : args.count = some count) :
    ∃ c, a.count = some c ∧ readCount (trim (Utf8.decode c.raw)) = .ok (some count.value) ∧
      count.text = String.ofList (Utf8.decode c.raw) ∧ count.span = a.countSpan c start := by
  cases h with
  | plain _ _ => cases hcount
  | counted c n _ hc hread =>
    cases hcount
    exact ⟨c, hc, hread, rfl, rfl⟩

/-- With a tidied label a list tells what it did. -/
theorem Means.tidyLabel (h : a.Means start (.valid args)) :
    ∃ args', a.tidyLabel.Means start (.valid args') ∧
      (Outcome.valid args').reading = (Outcome.valid args).reading ∧
      args'.label.hasExtraBlanks = false := by
  have hsame := trim_decode_tidied a.label
  have hblank : a.tidyLabel.isBlank = false := by
    rw [isBlank, ArgumentBytes.tidyLabel, hsame]
    exact h.isBlank_eq_false
  have hvalue : (a.tidyLabel.labelArg start).value = (a.labelArg start).value :=
    congrArg String.ofList hsame
  cases h with
  | plain _ hcount =>
    refine ⟨_, .plain hblank hcount, ?_, hasExtraBlanks_tidied _ _ _⟩
    simp only [Outcome.reading, hvalue, Option.map_none]
  | counted c n _ hcount hread =>
    refine ⟨_, .counted c n hblank hcount hread, ?_, hasExtraBlanks_tidied _ _ _⟩
    simp only [Outcome.reading, hvalue, Option.map_some]

/-- With a tidied count a list tells what it did. -/
theorem Means.tidyCount (h : a.Means start (.valid args)) {count : Arg Nat}
    (hcount : args.count = some count)
    (hread : readCount (trim (Utf8.decode c.raw)) = .ok (some count.value)) :
    ∃ args' count', (a.tidyCount c).Means start (.valid args') ∧
      (Outcome.valid args').reading = (Outcome.valid args).reading ∧
      args'.count = some count' ∧ count'.hasExtraBlanks = false := by
  rw [← trim_decode_tidied] at hread
  have hlabel : args.label.value = ((a.tidyCount c).labelArg start).value := by
    rw [h.label_eq]
    rfl
  refine ⟨_, _, .counted _ _ h.isBlank_eq_false rfl hread, ?_, rfl, hasExtraBlanks_tidied _ _ _⟩
  simp only [Outcome.reading, hlabel, hcount, Option.map_some]

end ArgumentBytes

section Layout

variable {before tail : List UInt8} {a : ArgumentBytes}

/-- Mending the label of a list writes the list with a tidied label. -/
theorem mended_label :
    (a.labelArg (before.length + marker.length : Nat)).mended
        (before ++ marker.items.toList ++ (a.write ++ tail)) =
      before ++ marker.items.toList ++ (a.tidyLabel.write ++ tail) := by
  obtain ⟨behind, hwrite, hwrite'⟩ : ∃ behind, a.write = openParen :: a.label ++ behind ∧
      a.tidyLabel.write = openParen :: tidied a.label ++ behind :=
    ⟨_, List.append_assoc _ _ _, List.append_assoc _ _ _⟩
  have hsize : marker.items.toList.length = marker.length := rfl
  have hnew : Utf8.encode (a.labelArg (before.length + marker.length : Nat)).trimmed.toList =
      tidied a.label := by
    rw [ArgumentBytes.labelArg, trimmed_ofList, String.toList_ofList]
    rfl
  rw [Arg.mended, hnew, Span.replaced_eq (before ++ marker.items.toList ++ [openParen]) a.label
    (behind ++ tail), hwrite']
  · simp
  · rw [hwrite]
    simp
  · simp only [ArgumentBytes.labelArg, List.length_append, List.length_singleton, hsize]
    omega
  · simp only [ArgumentBytes.labelArg, List.length_append, List.length_singleton, hsize]
    omega

/-- Mending the count of a list writes the list with a tidied count. -/
theorem mended_count {c : CountBytes} {count : Arg Nat} (hcount : a.count = some c)
    (htext : count.text = String.ofList (Utf8.decode c.raw))
    (hspan : count.span = a.countSpan c (before.length + marker.length : Nat)) :
    count.mended (before ++ marker.items.toList ++ (a.write ++ tail)) =
      before ++ marker.items.toList ++ ((a.tidyCount c).write ++ tail) := by
  have hline : before ++ marker.items.toList ++ (a.write ++ tail) =
      before ++ marker.items.toList ++ a.write ++ tail := by simp only [List.append_assoc]
  have hsize : marker.items.toList.length = marker.length := rfl
  have hnew : Utf8.encode count.trimmed.toList = tidied c.raw := by
    rw [Arg.trimmed, htext, String.toList_ofList, String.toList_ofList]
    rfl
  rw [Arg.mended, hnew, Span.replaced_eq _ c.raw _ (tidied c.raw) (eq_append_count hline hcount)]
  · simp [ArgumentBytes.write, CountBytes.write, ArgumentBytes.tidyCount]
  all_goals
    rw [hspan]
    simp only [ArgumentBytes.countSpan, List.length_append, List.length_cons, hsize]
    split <;> simp only [List.length_cons, List.length_nil] <;> omega

end Layout

/-- The argument list of a valid match of a line. -/
theorem exists_layout_of_valid {line : List UInt8} {found : List Match} {m : Match} {args : Args}
    (hscan : scanLine marker 0 line = .ok found) (hm : m ∈ found)
    (hvalid : m.outcome = .valid args) :
    ∃ (before tail : List UInt8) (a : ArgumentBytes), a.WellFormed ∧
      line = before ++ marker.items.toList ++ (a.write ++ tail) ∧ m.offset = before.length ∧
      a.Means (before.length + marker.length : Nat) (.valid args) := by
  obtain ⟨p, hreports⟩ := exists_reports_of_scanLine hscan m hm
  obtain ⟨before, hline, hoffset⟩ := @Reports.exists_layout marker line [] p m hreports []
  have hplace := hreports.place
  obtain rfl : p = before.length := by omega
  have hread := hreports.outcome
  rw [hvalid, Int.zero_add] at hread
  rcases Outcome.read_eq_ok hread with ⟨_, hmalformed⟩ | ⟨a, ha, hmeans⟩
  · cases hmalformed
  · obtain ⟨hwf, tail, htail⟩ := ArgumentBytes.read_eq_some ha
    refine ⟨before, tail, a, hwf, ?_, hoffset, hmeans⟩
    rw [htail] at hline
    simpa using hline

end Comment

namespace Check

open Comment Text

/-- The bytes with the suggestion of a finding written at the one place it concerns. -/
def Finding.followed? (f : Finding) (data : List UInt8) : Option (List UInt8) :=
  match f.locations, f.suggestion with
  | [l], some text => some (l.span.replaced (Utf8.encode text.toList) data)
  | _, _ => none

/-- Following the suggestion for an argument mends the argument. -/
theorem exists_blankFinding {α : Type} {a : Arg α} (h : a.hasExtraBlanks = true) (path : Path)
    (name : String) (data : List UInt8) :
    ∃ f, blankFinding path name a = some f ∧ f.followed? data = some (a.mended data) := by
  rw [blankFinding, if_pos h]
  exact ⟨_, rfl, rfl⟩

/-- Another line has the matches of a line, with nothing changed in what they tell, and the argument
of one of them has no blanks around it. -/
def IsMended {α : Type} (found : List Match) (i : Nat) (argument : Args → Option (Arg α))
    (line : List UInt8) : Prop :=
  ∃ found' args a, scanLine marker 0 line = .ok found' ∧
    found'.map Match.reading = found.map Match.reading ∧
    found'[i]?.bind Match.args? = some args ∧ argument args = some a ∧ a.hasExtraBlanks = false

/-- Each argument of a valid match that has blanks around it has a finding, and following the
suggestion of the finding mends the argument and nothing else: the line has as many matches as
before, of the same kinds and with the same labels and counts one by one, and the argument has no
blanks around it any more. -/
theorem scanLine_mended (line : List UInt8) (found : List Match) (i : Nat) (m : Match) (args : Args)
    (hscan : scanLine marker 0 line = .ok found) (hm : found[i]? = some m)
    (hvalid : m.outcome = .valid args) (path : Path) :
    (args.label.hasExtraBlanks = true →
      ∃ f line', blankFinding path "label" args.label = some f ∧ f.followed? line = some line' ∧
        line' = args.label.mended line ∧
        IsMended found i (fun args' => some args'.label) line') ∧
    ∀ count, args.count = some count → count.hasExtraBlanks = true →
      ∃ f line', blankFinding path "count" count = some f ∧ f.followed? line = some line' ∧
        line' = count.mended line ∧ IsMended found i Args.count line' := by
  obtain ⟨before, tail, a, hwf, rfl, hoffset, hmeans⟩ :=
    exists_layout_of_valid hscan (List.mem_of_getElem? hm) hvalid
  have hplace : m.offset = 0 + before.length := by rw [hoffset, Int.zero_add]
  have hmeans₀ := hmeans
  rw [← Int.zero_add ((before.length + marker.length : Nat) : Int)] at hmeans₀
  constructor
  · intro hblanks
    obtain ⟨f, hf, hfollowed⟩ := exists_blankFinding hblanks path "label"
      (before ++ marker.items.toList ++ (a.write ++ tail))
    refine ⟨f, _, hf, hfollowed, rfl, ?_⟩
    rw [hmeans.label_eq, mended_label]
    obtain ⟨args', hmeans', htells, htidy⟩ := hmeans₀.tidyLabel
    obtain ⟨found', hscan', hsame, hm'⟩ :=
      scanLine_replaced hwf hwf.tidyLabel hmeans₀ hmeans' htells hscan hm hplace
    exact ⟨found', args', args'.label, hscan', hsame, by rw [hm']; rfl, rfl, htidy⟩
  · intro count hcount hblanks
    obtain ⟨f, hf, hfollowed⟩ := exists_blankFinding hblanks path "count"
      (before ++ marker.items.toList ++ (a.write ++ tail))
    refine ⟨f, _, hf, hfollowed, rfl, ?_⟩
    obtain ⟨c, hc, hread, htext, hspan⟩ := hmeans.count_eq hcount
    rw [mended_count hc htext hspan]
    obtain ⟨args', count', hmeans', htells, hcount', htidy⟩ := hmeans₀.tidyCount hcount hread
    have hdigits := (readCount_eq_some_iff.mp hread).1
    obtain ⟨found', hscan', hsame, hm'⟩ :=
      scanLine_replaced hwf (hwf.tidyCount hc hdigits) hmeans₀ hmeans' htells hscan hm hplace
    exact ⟨found', args', count', hscan', hsame, by rw [hm']; rfl, hcount', htidy⟩

/-- The line `CODESYNC(,CODESYNC( ÿ ,  3 )CODESYNC(b,x)`, where `ÿ` is a byte that starts no
character: a marker without a label, a valid match with blanks around both arguments, and a match
with a bad count. -/
def paddedLine : List UInt8 :=
  marker.items.toList ++ [40, 44] ++ marker.items.toList ++
    [40, 32, 255, 32, 44, 32, 32, 51, 32, 41] ++ marker.items.toList ++ [40, 98, 44, 120, 41]

/-- The arguments of the valid match of the line. -/
def paddedArgs : Args := ⟨⟨"�", " � ", 19, 22⟩, some ⟨3, " 3 ", 24, 27⟩, 10⟩

/-- The matches of the line. -/
def paddedMatches : List Match :=
  [⟨0, .malformed, 8⟩, ⟨10, .valid paddedArgs, 8⟩, ⟨28, .invalidCount ⟨39, 40⟩, 8⟩]

/-- The marker before the mended list stays without a label and the bad count behind it a bad one,
and in the place of the byte that starts no character the one character is written that it was read
as. -/
theorem scanLine_mended_replaced_byte :
    scanLine marker 0 paddedLine = .ok paddedMatches ∧
    paddedArgs.label.hasExtraBlanks = true ∧
    IsMended paddedMatches 1 (fun args => some args.label)
      (marker.items.toList ++ [40, 44] ++ marker.items.toList ++
        [40, 239, 191, 189, 44, 32, 32, 51, 32, 41] ++ marker.items.toList ++
        [40, 98, 44, 120, 41]) ∧
    IsMended paddedMatches 1 Args.count
      (marker.items.toList ++ [40, 44] ++ marker.items.toList ++
        [40, 32, 255, 32, 44, 32, 51, 41] ++ marker.items.toList ++ [40, 98, 44, 120, 41]) := by
  have hscan : scanLine marker 0 paddedLine = .ok paddedMatches := by cbv
  obtain ⟨hlabel, hcount⟩ := scanLine_mended paddedLine paddedMatches 1
    ⟨10, .valid paddedArgs, 8⟩ paddedArgs hscan rfl rfl ⟨.workDir, ["a.c"]⟩
  have hblanks : paddedArgs.label.hasExtraBlanks = true := by decide
  obtain ⟨_, _, _, _, rfl, hlabel⟩ := hlabel hblanks
  obtain ⟨_, _, _, _, rfl, hcount⟩ := hcount ⟨3, " 3 ", 24, 27⟩ rfl (by decide)
  have hline : paddedArgs.label.mended paddedLine =
      marker.items.toList ++ [40, 44] ++ marker.items.toList ++
        [40, 239, 191, 189, 44, 32, 32, 51, 32, 41] ++ marker.items.toList ++
        [40, 98, 44, 120, 41] := by cbv
  have hline' : (Arg.mk 3 " 3 " ⟨24, 27⟩).mended paddedLine =
      marker.items.toList ++ [40, 44] ++ marker.items.toList ++
        [40, 32, 255, 32, 44, 32, 51, 41] ++ marker.items.toList ++ [40, 98, 44, 120, 41] := by cbv
  exact ⟨hscan, hblanks, hline ▸ hlabel, hline' ▸ hcount⟩

end Check

end LabelTally
