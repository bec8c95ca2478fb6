import LabelTally.Proofs.Comment.Scan
import LabelTally.Proofs.Text.Encoding

/-!
# Written annotations are read back

An annotation is written as the marker and a list of its label and count. A line of annotations with
other bytes between them is scanned into these annotations, each at its place. The bytes before an
annotation may be anything that does not complete a marker early; a label may hold the marker, since
scanning goes on after the closing parenthesis.
-/

namespace LabelTally.Comment

open Decimal Occurrence Text

/-- A number is denoted by its decimal digits. -/
theorem digitsValue_toDigits (n : Nat) : digitsValue (Nat.toDigits 10 n) = n := by
  have hread := Nat.ofDigitChars_ten_toDigits (n := n)
  rw [Nat.ofDigitChars_eq_foldl] at hread
  simpa only [digitsValue, Nat.mul_comm, Char.reduceToNat] using hread

/-- The decimal digits of a number are a run of digits. -/
theorem isDigitRun_toDigits (n : Nat) : isDigitRun (Nat.toDigits 10 n) = true := by
  rw [isDigitRun, Bool.and_eq_true]
  constructor
  · simp [Nat.toDigits_ne_nil]
  · exact List.all_eq_true.mpr fun c hc => Nat.isDigit_of_mem_toDigits (by decide) (by decide) hc

/-- A digit is not blank. -/
theorem isBlank_of_isDigit {c : Char} (h : c.isDigit = true) : isBlank c = false := by
  rw [Char.isDigit_iff_toNat] at h
  simp only [Char.reduceToNat] at h
  simp only [isBlank, Bool.or_eq_false_iff, Bool.and_eq_false_iff, decide_eq_false_iff_not,
    beq_eq_false_iff_ne]
  omega

/-- A number in range is read back as a count. -/
theorem readCount_toDigits {n : Nat} (h : n ≤ maxCount) :
    readCount (trim (Nat.toDigits 10 n)) = .ok (some n) := by
  have hfree : ∀ c ∈ Nat.toDigits 10 n, isBlank c = false := fun c hc =>
    isBlank_of_isDigit (Nat.isDigit_of_mem_toDigits (by decide) (by decide) hc)
  have hshort : (Nat.toDigits 10 n).length ≤ 5 :=
    Nat.toDigits_length 10 n 5 (by decide) (by simp only [maxCount] at h; omega)
  rw [trim_of_free hfree, readCount_eq_some_iff]
  exact ⟨isDigitRun_toDigits n, by simp only [digitLimit]; omega, digitsValue_toDigits n, h⟩

/-- An annotation that can be written. -/
structure Annotation where
  /-- The label with the blanks around it. -/
  label : String
  /-- The count, if one is given. -/
  count : Option Nat
  /-- The label does not end early. -/
  label_chars : ∀ c ∈ label.toList, c ≠ ',' ∧ c ≠ ')'
  /-- The label is not blank. -/
  label_text : trim label.toList ≠ []
  /-- The count is in range. -/
  count_le : ∀ n, count = some n → n ≤ maxCount

namespace Annotation

/-- The text of an annotation. -/
def text (a : Annotation) : String :=
  "CODESYNC(" ++ a.label ++ (match a.count with
    | some n => ", " ++ toString n
    | none => "") ++ ")"

/-- The bytes of an annotation. -/
def write (a : Annotation) : List UInt8 := Utf8.encode a.text.toList

/-- The bytes of the arguments. -/
def argumentBytes (a : Annotation) : ArgumentBytes where
  label := Utf8.encode a.label.toList
  count := a.count.map fun n => ⟨true, Utf8.encode (Nat.toDigits 10 n)⟩

/-- An annotation is written as the marker and its argument list. -/
theorem write_eq (a : Annotation) : a.write = marker.items.toList ++ a.argumentBytes.write := by
  have hmarker : Utf8.encode "CODESYNC(".toList = marker.items.toList ++ [openParen] := by decide
  have hcomma : Utf8.encode ", ".toList = [comma, space] := by decide
  have hclose : Utf8.encode ")".toList = [closeParen] := by decide
  cases hcount : a.count with
  | none =>
    simp only [write, text, argumentBytes, ArgumentBytes.write, hcount, String.toList_append,
      Utf8.encode_append, hmarker, hclose, Option.map_none]
    simp [Utf8.encode]
  | some n =>
    simp only [write, text, argumentBytes, ArgumentBytes.write, CountBytes.write, hcount,
      String.toList_append, Utf8.encode_append, hmarker, hcomma, hclose, Option.map_some]
    simp [Nat.repr_eq_ofList_toDigits, toString]

/-- An annotation has as many bytes as the marker and its argument list. -/
theorem length_write (a : Annotation) : a.write.length = marker.length + a.argumentBytes.size := by
  rw [write_eq, List.length_append, ArgumentBytes.length_write, Array.length_toList, Needle.length]

/-- The arguments of an annotation are those that reading separates. -/
theorem argumentBytes_wellFormed (a : Annotation) : a.argumentBytes.WellFormed where
  label b hb := by
    have hfree : ∀ c : Char, c ∉ a.label.toList → c.toNat < 0x80 → b.toNat ≠ c.toNat := by
      intro c hc hascii he
      obtain ⟨c', hc', he'⟩ := Utf8.exists_of_mem_encode hb (by omega)
      rw [he, Char.toNat_inj] at he'
      exact hc (he' ▸ hc')
    constructor
    · rintro rfl
      exact hfree ',' (fun hc => (a.label_chars _ hc).1 rfl) (by decide) rfl
    · rintro rfl
      exact hfree ')' (fun hc => (a.label_chars _ hc).2 rfl) (by decide) rfl
  count c hc hclose := by
    obtain ⟨n, _, rfl⟩ := Option.map_eq_some_iff.mp hc
    obtain ⟨d, hd, he⟩ := Utf8.exists_of_mem_encode hclose (by decide)
    have hdigit := Nat.isDigit_of_mem_toDigits (by decide) (by decide) hd
    rw [Char.isDigit_iff_toNat, he] at hdigit
    exact absurd hdigit (by decide)
  space c hc hplain := by
    obtain ⟨n, _, rfl⟩ := Option.map_eq_some_iff.mp hc
    cases hplain

/-- The match that reports an annotation at an offset. -/
def toMatch (a : Annotation) (place : Int) : Match where
  offset := place
  outcome := .valid {
    label := a.argumentBytes.labelArg (place + marker.length)
    count := a.count.map fun n => {
      value := n
      text := toString n
      span := a.argumentBytes.countSpan ⟨true, Utf8.encode (Nat.toDigits 10 n)⟩
        (place + marker.length) }
    length := a.argumentBytes.size }
  markerLength := marker.length

/-- The label of an annotation is not blank. -/
theorem argumentBytes_isBlank (a : Annotation) : a.argumentBytes.isBlank = false := by
  rw [ArgumentBytes.isBlank, argumentBytes, Utf8.decode_encode]
  simpa using a.label_text

/-- The argument list of an annotation means its label and count. -/
theorem argumentBytes_means (a : Annotation) (place : Int) :
    a.argumentBytes.Means (place + marker.length) (a.toMatch place).outcome := by
  have hlabel := a.argumentBytes_isBlank
  cases hcount : a.count with
  | none =>
    have hnone : a.argumentBytes.count = none := by rw [argumentBytes, hcount, Option.map_none]
    simpa only [toMatch, hcount, Option.map_none] using .plain hlabel hnone
  | some n =>
    have hsome : a.argumentBytes.count = some ⟨true, Utf8.encode (Nat.toDigits 10 n)⟩ := by
      rw [argumentBytes, hcount, Option.map_some]
    have hread : readCount (trim (Utf8.decode (Utf8.encode (Nat.toDigits 10 n)))) =
        .ok (some n) := by
      rw [Utf8.decode_encode, readCount_toDigits (a.count_le n hcount)]
    have hmeans : a.argumentBytes.Means (place + marker.length) _ :=
      .counted _ n hlabel hsome hread
    have htext : toString n = String.ofList (Nat.toDigits 10 n) := Nat.repr_eq_ofList_toDigits
    rw [Utf8.decode_encode, ← htext] at hmeans
    simpa only [toMatch, hcount, Option.map_some] using hmeans

/-- The argument list of an annotation is read back, whatever follows. -/
theorem read_argumentBytes (a : Annotation) (place : Int) (rest : List UInt8) :
    Outcome.read (a.argumentBytes.write ++ rest) (place + marker.length) =
      .ok (a.toMatch place).outcome := by
  rw [Outcome.read, ArgumentBytes.read_write a.argumentBytes_wellFormed]
  exact (a.argumentBytes_means place).interpret_eq

end Annotation

/-- The bytes complete no marker before the one that follows them. -/
def LeadsTo (marker : Needle UInt8) (gap : List UInt8) : Prop :=
  ∀ p < gap.length, ¬OccursAt marker.items.toList (gap ++ marker.items.toList) p

instance (marker : Needle UInt8) (gap : List UInt8) : Decidable (LeadsTo marker gap) :=
  inferInstanceAs (Decidable (∀ p < gap.length,
    ¬OccursAt marker.items.toList (gap ++ marker.items.toList) p))

/-- The first marker after such bytes is the one that follows them. -/
theorem LeadsTo.isFirst {marker : Needle UInt8} {gap : List UInt8} (h : LeadsTo marker gap)
    (rest : List UInt8) :
    IsFirst marker.items.toList (gap ++ marker.items.toList ++ rest) 0 (some gap.length) := by
  refine ⟨Nat.zero_le _, ?_, fun q _ ho => Nat.le_of_not_lt fun hq => h q hq ?_⟩
  · rw [OccursAt, List.append_assoc, List.drop_left]
    exact List.prefix_append _ _
  · -- An earlier marker ends before the one that follows the gap does.
    rw [OccursAt, List.drop_append_of_le_length (by rw [List.length_append]; omega)] at ho
    refine List.prefix_of_prefix_length_le ho (List.prefix_append _ _) ?_
    rw [List.length_drop, List.length_append]
    omega

/-- One annotation after a gap is reported, and the scan goes on behind it. -/
theorem scanLine_annotation {gap : List UInt8} (h : LeadsTo marker gap) (a : Annotation)
    (rest : List UInt8) (offset : Int) :
    scanLine marker offset (gap ++ a.write ++ rest) =
      (scanLine marker (offset + gap.length + a.write.length) rest).map
        (a.toMatch (offset + gap.length) :: ·) := by
  have hline : gap ++ a.write ++ rest =
      gap ++ marker.items.toList ++ (a.argumentBytes.write ++ rest) := by
    rw [a.write_eq]
    simp only [List.append_assoc]
  have hfind : marker.find? (gap ++ a.write ++ rest).toArray 0 = some gap.length := by
    have hfirst := marker.find?_isFirst (gap ++ a.write ++ rest).toArray 0
    rw [List.toList_toArray, hline] at hfirst
    rw [hline]
    exact hfirst.unique (h.isFirst _)
  have hbehind : (gap ++ a.write ++ rest).drop (gap.length + marker.length) =
      a.argumentBytes.write ++ rest := by
    rw [hline, List.drop_append_of_le_length (by simp [Needle.length]),
      List.drop_of_length_le (by simp [Needle.length]), List.nil_append]
  have hread := a.read_argumentBytes (offset + gap.length) rest
  have hsize : consumed (a.argumentBytes.write ++ rest) (a.toMatch (offset + gap.length)).outcome =
      a.argumentBytes.size := by
    rw [consumed_eq_argumentLength hread, argumentLength_of_label
      (ArgumentBytes.read_write a.argumentBytes_wellFormed rest) a.argumentBytes_isBlank]
  have hlength := a.length_write
  have hnonempty : ¬(gap ++ a.write ++ rest).length = 0 := by
    have hn := marker.nonempty
    simp only [List.length_append, hlength, Needle.length]
    omega
  have hplace : offset + ((gap.length + marker.length : Nat) : Int) =
      offset + gap.length + marker.length := by omega
  have hok : (Except.ok (a.toMatch (offset + gap.length)).outcome : Except TooManyDigits Outcome) =
      pure (a.toMatch (offset + gap.length)).outcome := rfl
  have hrest : (a.argumentBytes.write ++ rest).drop a.argumentBytes.size = rest := by
    rw [← a.argumentBytes.length_write, List.drop_left]
  have hnext : offset + gap.length + marker.length + (a.argumentBytes.size : Int) =
      offset + gap.length + a.write.length := by omega
  rw [scanLine, dif_neg hnonempty, hfind]
  dsimp only
  rw [hbehind, hplace, hread, hok, pure_bind, hsize, bind_pure_comp, hrest, hnext]
  rfl

/-- A line: bytes and annotations in turn, and bytes at the end. -/
def writeLine : List (List UInt8 × Annotation) → List UInt8 → List UInt8
  | [], last => last
  | (gap, a) :: rest, last => gap ++ a.write ++ writeLine rest last

/-- The match reports the annotation at an offset. -/
structure Match.ReadsBack (m : Match) (a : Annotation) (place : Int) : Prop where
  /-- It has the offset of the annotation. -/
  offset : m.offset = place
  /-- Its span is that of the annotation. -/
  span : m.span = ⟨place, place + a.write.length⟩
  /-- Its label and count are those of the annotation. -/
  args : ∃ args, m.outcome = .valid args ∧ args.label.text = a.label ∧
    args.label.value = String.ofList (trim a.label.toList) ∧
    args.count.map (·.value) = a.count

/-- The match of an annotation reports it. -/
theorem Annotation.toMatch_readsBack (a : Annotation) (place : Int) :
    (a.toMatch place).ReadsBack a place where
  offset := rfl
  span := by
    simp only [Match.span, toMatch, a.length_write]
    congr 1
    omega
  args := by
    refine ⟨_, rfl, ?_, ?_, ?_⟩
    · simp only [ArgumentBytes.labelArg, argumentBytes, Utf8.decode_encode, String.ofList_toList]
    · simp only [ArgumentBytes.labelArg, argumentBytes, Utf8.decode_encode]
    · cases a.count <;> rfl

/-- A line of annotations is scanned into exactly these, each at its place, if the bytes before each
of them complete no marker early and those at the end hold none. -/
theorem scanLine_writeLine (pieces : List (List UInt8 × Annotation)) (last : List UInt8)
    (hgaps : ∀ piece ∈ pieces, LeadsTo marker piece.1)
    (hlast : ¬marker.items.toList <:+: last) (offset : Int) :
    ∃ found, scanLine marker offset (writeLine pieces last) = .ok found ∧
      found.length = pieces.length ∧
      ∀ (i : Nat) (hi : i < pieces.length), ∃ m, found[i]? = some m ∧
        m.ReadsBack pieces[i].2
          (offset + (writeLine (pieces.take i) pieces[i].1).length) := by
  induction pieces generalizing offset with
  | nil =>
    refine ⟨[], scanLine_of_not_occursIn ?_ offset, rfl, fun i hi => absurd hi (Nat.not_lt_zero i)⟩
    rw [marker.occursIn_iff]
    rintro ⟨p, hp⟩
    exact hlast (hp.isInfix.trans (List.drop_suffix p last).isInfix)
  | cons piece rest ih =>
    obtain ⟨gap, a⟩ := piece
    have hgap : LeadsTo marker gap := hgaps (gap, a) List.mem_cons_self
    obtain ⟨found, hscan, hlength, hreads⟩ := ih (fun piece hpiece =>
      hgaps piece (List.mem_cons_of_mem _ hpiece)) (offset + gap.length + a.write.length)
    refine ⟨a.toMatch (offset + gap.length) :: found, ?_, by simp [hlength], fun i hi => ?_⟩
    · rw [writeLine, scanLine_annotation hgap, hscan]
      rfl
    · cases i with
      | zero => exact ⟨_, rfl, a.toMatch_readsBack _⟩
      | succ i =>
        have hi' : i < rest.length := by simpa using hi
        obtain ⟨m, hm, hback⟩ := hreads i hi'
        have hplace : offset + (writeLine (((gap, a) :: rest).take (i + 1)) rest[i].1).length =
            offset + gap.length + a.write.length + (writeLine (rest.take i) rest[i].1).length := by
          rw [List.take_succ_cons, writeLine, List.length_append, List.length_append]
          omega
        rw [← hplace] at hback
        exact ⟨m, hm, hback⟩

/-- An annotation whose label holds a marker with an opening parenthesis, and a blank before it. -/
def quotingAnnotation : Annotation where
  label := " é CODESYNC(x"
  count := some 65535
  label_chars := by simp
  label_text := by decide
  count_le := by
    rintro n ⟨⟩
    decide

/-- An annotation without a count. -/
def plainAnnotation : Annotation where
  label := "CODESYNC"
  count := none
  label_chars := by simp
  label_text := by decide
  count_le := by simp

/-- Two annotations that quote the marker, with the beginning of a marker before each of them and at
the end of the line. -/
theorem scanLine_writeLine_quoted_markers :
    (∀ piece ∈ [([67, 79, 68, 69, 83, 89], quotingAnnotation), ([67, 79, 67], plainAnnotation)],
      LeadsTo marker piece.1) ∧
    ¬marker.items.toList <:+: [67, 79] ∧
    ∃ found, scanLine marker 7
        (writeLine [([67, 79, 68, 69, 83, 89], quotingAnnotation), ([67, 79, 67], plainAnnotation)]
          [67, 79]) = .ok found ∧
      found.length = 2 ∧
      (∃ m, found[0]? = some m ∧ m.ReadsBack quotingAnnotation 13) ∧
      ∃ m, found[1]? = some m ∧ m.ReadsBack plainAnnotation 47 := by
  have hgaps : ∀ piece ∈ [([67, 79, 68, 69, 83, 89], quotingAnnotation),
      ([67, 79, 67], plainAnnotation)], LeadsTo marker piece.1 := by
    simp only [List.forall_mem_cons, List.not_mem_nil, false_imp_iff, implies_true, and_true]
    decide
  have hlast : ¬marker.items.toList <:+: [67, 79] := by decide
  obtain ⟨found, hscan, hlength, hreads⟩ := scanLine_writeLine _ _ hgaps hlast 7
  refine ⟨hgaps, hlast, found, hscan, hlength, hreads 0 (by decide), ?_⟩
  exact hreads 1 (by decide)

end LabelTally.Comment
