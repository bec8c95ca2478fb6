import LabelTally.Label.Style
import LabelTally.Proofs.Label.Acronyms
import LabelTally.Proofs.Label.Recase

/-!
# Joined styles

In a joined style capitals stand where words start and where acronyms stand. A pass over a text that
comes from such a pass only takes capitals away, and with them no start of a word: what follows the
start of a word, and what stands before it, keeps its case or loses a capital. So a third pass
changes nothing.
-/

namespace LabelTally.Label

open Text

/-- The text with its first character lowered in a text that starts small. -/
def lowerFirst (startsSmall : Bool) : List Char → List Char
  | [] => []
  | c :: rest => (if startsSmall then c.toLower else c) :: rest

/-- Lowering the first character keeps the letters. -/
theorem lowered_lowerFirst (startsSmall : Bool) (text : List Char) :
    lowered (lowerFirst startsSmall text) = lowered text := by
  cases text with
  | nil => rfl
  | cons c rest => cases startsSmall <;> simp [lowerFirst, lowered]

/-- Lowering the first character takes one capital away. -/
theorem capitalAt_lowerFirst (startsSmall : Bool) (text : List Char) (i : Nat) :
    capitalAt (lowerFirst startsSmall text) i =
      (capitalAt text i && !(startsSmall && i == 0)) := by
  cases text with
  | nil => simp [lowerFirst, capitalAt]
  | cons c rest =>
    cases i with
    | zero => cases startsSmall <;> simp [lowerFirst, capitalAt]
    | succ i => simp [lowerFirst, capitalAt]

/-- The pass stays in ASCII. -/
theorem isAsciiText_lowerFirst_recase (startsSmall : Bool) {text : List Char}
    (h : IsAsciiText text) : IsAsciiText (lowerFirst startsSmall (recase none text)) := by
  have hkept : IsAsciiText (text.filter isAlphanumeric) := fun c hc =>
    h c (List.mem_filter.mp hc).1
  exact hkept.of_lowered_eq (by rw [lowered_lowerFirst, lowered_recase])

/-- A text that does not start small keeps its first character. -/
theorem lowerFirst_false (text : List Char) : lowerFirst false text = text := by
  cases text <;> rfl

/-- The words of ASCII text begin with a character that has no other small form. -/
theorem exists_cons_of_mem_splitWords {text word : List Char} (h : IsAsciiText text)
    (hword : word ∈ splitWords text) :
    ∃ c rest, word = c :: rest ∧ isAscii c = true ∧ c.toLower = c := by
  obtain ⟨raw, hraw, rfl⟩ := List.mem_map.mp hword
  have hascii : IsAsciiText raw := fun c hc => h c (mem_of_mem_splitFrom hraw hc).1
  cases raw with
  | nil => exact absurd rfl (ne_nil_of_mem_splitFrom hraw)
  | cons c rest =>
    refine ⟨c.toLower, lowered rest, lower_of_ascii hascii, ?_, Char.toLower_toLower_eq_toLower c⟩
    rw [isAscii_toLower]
    exact hascii c List.mem_cons_self

/-- Leaving the first word lowered is lowering the first character of the joined text. -/
theorem flatten_take_one {words : List (List Char)}
    (h : ∀ w ∈ words, ∃ c rest, w = c :: rest ∧ isAscii c = true ∧ c.toLower = c) :
    (words.take 1 ++ (words.map capitalize).drop 1).flatten =
      lowerFirst true (words.map capitalize).flatten := by
  cases words with
  | nil => rfl
  | cons w words =>
    obtain ⟨c, rest, rfl, hascii, hlower⟩ := h w List.mem_cons_self
    rw [List.map_cons, List.flatten_cons, capitalize_of_ascii hascii, List.cons_append, lowerFirst,
      if_pos rfl, Char.toLower_toUpper_eq_toLower, hlower]
    rfl

/-- One pass of a joined style with acronyms that are raised anywhere. -/
def joinOnce (startsSmall : Bool) (acronyms : List (List Char)) (text : List Char) : List Char :=
  joinWords startsSmall ⟨acronyms, false⟩ (splitWords text)

/-- One pass sets the case, lowers the first character if need be, and raises acronyms. -/
theorem joinOnce_eq (startsSmall : Bool) (acronyms : List (List Char)) {text : List Char}
    (h : IsAsciiText text) :
    joinOnce startsSmall acronyms text =
      raiseAll acronyms (lowerFirst startsSmall (recase none text)) := by
  have hempty : IsAsciiText [] := by simp [IsAsciiText]
  have hjoined : ((splitWords text).map capitalize).flatten = recase none text := by
    rw [splitWords, List.map_map]
    exact flatten_capitalize_splitFrom hempty h
  have hfirst : (if startsSmall then
      (splitWords text).take 1 ++ ((splitWords text).map capitalize).drop 1
      else (splitWords text).map capitalize).flatten =
        lowerFirst startsSmall (recase none text) := by
    rw [← hjoined]
    cases startsSmall with
    | true => exact flatten_take_one fun w hw => exists_cons_of_mem_splitWords h hw
    | false => rw [lowerFirst_false, if_neg Bool.false_ne_true]
  have hraise : joinOnce startsSmall acronyms text =
      if acronyms.isEmpty then lowerFirst startsSmall (recase none text)
      else raiseAll acronyms (lowerFirst startsSmall (recase none text)) := by
    rw [← hfirst, joinOnce, joinWords]
    simp only [caseWords, Bool.false_and, Bool.false_eq_true, if_false, Bool.or_false]
  rw [hraise]
  cases acronyms with
  | nil => rw [raiseAll_nil]; rfl
  | cons a acronyms => rfl

/-- One pass keeps the letters and digits of the text. -/
theorem lowered_joinOnce (startsSmall : Bool) (acronyms : List (List Char)) {text : List Char}
    (h : IsAsciiText text) :
    lowered (joinOnce startsSmall acronyms text) = lowered (text.filter isAlphanumeric) := by
  rw [joinOnce_eq startsSmall acronyms h,
    lowered_raiseAll acronyms (isAsciiText_lowerFirst_recase startsSmall h), lowered_lowerFirst,
    lowered_recase]

/-- One pass leaves a capital where the words have one, the first character of a text that starts
small apart, and where an acronym stands. -/
theorem capitalAt_joinOnce (startsSmall : Bool) (acronyms : List (List Char)) {text : List Char}
    (h : IsAsciiText text) (i : Nat) :
    capitalAt (joinOnce startsSmall acronyms text) i =
      (capitalAt (recase none text) i && !(startsSmall && i == 0) ||
        acronymAt acronyms (joinOnce startsSmall acronyms text) i) := by
  have hlow : lowered (joinOnce startsSmall acronyms text) =
      lowered (lowerFirst startsSmall (recase none text)) := by
    rw [lowered_joinOnce startsSmall acronyms h, lowered_lowerFirst, lowered_recase]
  rw [acronymAt_congr hlow, joinOnce_eq startsSmall acronyms h,
    capitalAt_raiseAll acronyms (isAsciiText_lowerFirst_recase startsSmall h), capitalAt_lowerFirst]

/-- The text is what a pass of a joined style can leave: joined, with its acronyms raised, and with
a capital first unless it starts small. -/
structure IsSettled (startsSmall : Bool) (acronyms : List (List Char)) (text : List Char) :
    Prop where
  /-- The text has letters and digits only. -/
  alphanum : ∀ c ∈ text, c.isAlphanum = true
  /-- The acronyms are raised. -/
  raised : ∀ i, acronymAt acronyms text i = true → capitalAt text i = true
  /-- The first letter is a capital if the text does not start small. -/
  first : startsSmall = false → letterAt text 0 = true → capitalAt text 0 = true

section Pass

variable {startsSmall : Bool} {acronyms : List (List Char)} {text : List Char}

/-- A settled text is in ASCII. -/
theorem IsSettled.isAsciiText (h : IsSettled startsSmall acronyms text) : IsAsciiText text :=
  fun c hc => (isAlphanumeric_of_isAlphanum (h.alphanum c hc)).1

/-- A pass leaves a settled text. -/
theorem isSettled_joinOnce (h : IsAsciiText text) :
    IsSettled startsSmall acronyms (joinOnce startsSmall acronyms text) := by
  have hlow := lowered_joinOnce startsSmall acronyms h
  have hcapital := capitalAt_joinOnce startsSmall acronyms h
  refine ⟨isAlphanum_of_lowered_eq h hlow, fun i hi => by rw [hcapital, hi, Bool.or_true],
    fun hbig hletter => ?_⟩
  have hrecase : letterAt (recase none text) 0 = true := by
    rw [letterAt_congr (lowered_recase none text), ← letterAt_congr hlow, hletter]
  rw [hcapital, capitalAt_recase_zero, hrecase, hbig]
  rfl

/-- A settled text keeps all its characters. -/
theorem IsSettled.lowered_joinOnce (h : IsSettled startsSmall acronyms text) :
    lowered (joinOnce startsSmall acronyms text) = lowered text := by
  rw [Label.lowered_joinOnce startsSmall acronyms h.isAsciiText, List.filter_eq_self.mpr fun c hc =>
    (isAlphanumeric_of_isAlphanum (h.alphanum c hc)).2]

/-- What a pass does to a settled text: capitals stay where words start and acronyms stand. -/
theorem IsSettled.capitalAt_joinOnce (h : IsSettled startsSmall acronyms text) (i : Nat) :
    capitalAt (joinOnce startsSmall acronyms text) i =
      (wordAt text i && !(startsSmall && i == 0) || acronymAt acronyms text i) := by
  rw [Label.capitalAt_joinOnce startsSmall acronyms h.isAsciiText, capitalAt_recase h.alphanum,
    acronymAt_congr h.lowered_joinOnce]

/-- A pass over a settled text adds no capitals. -/
theorem IsSettled.capitalAt_of_joinOnce (h : IsSettled startsSmall acronyms text) {i : Nat}
    (hi : capitalAt (joinOnce startsSmall acronyms text) i = true) : capitalAt text i = true := by
  rw [h.capitalAt_joinOnce, Bool.or_eq_true, Bool.and_eq_true] at hi
  rcases hi with ⟨hword, hfirst⟩ | hacronym
  · cases i with
    | zero => exact h.first (by simpa using hfirst) hword
    | succ i => exact (Bool.and_eq_true_iff.mp hword).1
  · exact h.raised i hacronym

/-- A second pass over a settled text changes nothing. -/
theorem IsSettled.joinOnce_joinOnce (h : IsSettled startsSmall acronyms text) :
    joinOnce startsSmall acronyms (joinOnce startsSmall acronyms text) =
      joinOnce startsSmall acronyms text := by
  have hnext : IsSettled startsSmall acronyms (joinOnce startsSmall acronyms text) :=
    isSettled_joinOnce h.isAsciiText
  have hlow := h.lowered_joinOnce
  refine eq_of_capitalAt hnext.lowered_joinOnce fun i => ?_
  refine Bool.eq_iff_iff.mpr ⟨hnext.capitalAt_of_joinOnce, fun hi => ?_⟩
  have hbefore := hi
  rw [h.capitalAt_joinOnce, Bool.or_eq_true, Bool.and_eq_true] at hbefore
  rw [hnext.capitalAt_joinOnce, Bool.or_eq_true, Bool.and_eq_true, acronymAt_congr hlow]
  refine hbefore.imp_left fun ⟨hword, hfirst⟩ => ⟨?_, hfirst⟩
  cases i with
  | zero => exact (letterAt_congr hlow 0).trans hword
  | succ i =>
    rw [wordAt, Bool.and_eq_true, Bool.or_eq_true] at hword ⊢
    refine ⟨hi, hword.2.imp (fun hbehind => ?_) fun hahead => ?_⟩
    · -- What was no capital before the letter is none now.
      rw [Bool.not_eq_true', Bool.eq_false_iff] at hbehind ⊢
      exact fun hcapital => hbehind (h.capitalAt_of_joinOnce hcapital)
    · -- A small letter behind it stays small.
      rw [smallAt_eq, Bool.and_eq_true, Bool.not_eq_true', Bool.eq_false_iff] at hahead ⊢
      exact ⟨(letterAt_congr hlow _).trans hahead.1, fun hcapital =>
        hahead.2 (h.capitalAt_of_joinOnce hcapital)⟩

end Pass

/-- A third pass changes nothing. -/
theorem joinOnce_stable (startsSmall : Bool) (acronyms : List (List Char)) {text : List Char}
    (h : IsAsciiText text) :
    joinOnce startsSmall acronyms
        (joinOnce startsSmall acronyms (joinOnce startsSmall acronyms text)) =
      joinOnce startsSmall acronyms (joinOnce startsSmall acronyms text) :=
  (isSettled_joinOnce h).joinOnce_joinOnce

/-- Two passes over their own result change nothing. -/
theorem joinTwice_joinTwice (startsSmall : Bool) (acronyms : List (List Char)) {text : List Char}
    (h : IsAsciiText text) :
    joinTwice startsSmall ⟨acronyms, false⟩ (joinTwice startsSmall ⟨acronyms, false⟩ text) =
      joinTwice startsSmall ⟨acronyms, false⟩ text := by
  have hpasses : ∀ t, joinTwice startsSmall ⟨acronyms, false⟩ t =
      joinOnce startsSmall (acronyms.filter (!·.isEmpty))
        (joinOnce startsSmall (acronyms.filter (!·.isEmpty)) t) := fun _ => rfl
  rw [hpasses, hpasses, joinOnce_stable startsSmall _ h, joinOnce_stable startsSmall _ h]

/-- Conversion to a joined style with acronyms that are raised anywhere is idempotent. -/
theorem convert_convert_of_joined {style : Style} (hstyle : style = .camel ∨ style = .pascal)
    (acronyms : List (List Char)) {text : List Char} (h : IsAsciiText text) :
    convert style ⟨acronyms, false⟩ (convert style ⟨acronyms, false⟩ text) =
      convert style ⟨acronyms, false⟩ text := by
  rcases hstyle with rfl | rfl
  · exact joinTwice_joinTwice true acronyms h
  · exact joinTwice_joinTwice false acronyms h

/-- One-letter words and overlapping acronyms, one of them empty and one not in ASCII. -/
theorem convert_convert_one_letter_words :
    IsAsciiText "a-b c2d_httpsURL".toList ∧
      convert .camel ⟨["ttps".toList, "su".toList, [], "é".toList], false⟩
          (convert .camel ⟨["ttps".toList, "su".toList, [], "é".toList], false⟩
            "a-b c2d_httpsURL".toList) =
        convert .camel ⟨["ttps".toList, "su".toList, [], "é".toList], false⟩
          "a-b c2d_httpsURL".toList := by
  have hascii : IsAsciiText "a-b c2d_httpsURL".toList := by decide
  exact ⟨hascii, convert_convert_of_joined (.inl rfl) _ hascii⟩

end LabelTally.Label
