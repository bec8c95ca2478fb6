import LabelTally.Proofs.Label.WordForms

/-!
# Acronyms that are whole words

A pass of a joined style raises the words that are acronyms and capitalizes the others. A letter
behind a digit that starts a word goes on starting one, and a letter behind a letter starts a word
afterwards only if it did before. So the words of a text never come back once they have changed.
-/

namespace LabelTally.Label

open Text

/-- The words of ASCII text have its letters and digits. -/
theorem flatten_splitWords {text : List Char} (h : IsAsciiText text) :
    (splitWords text).flatten = lowered (text.filter isAlphanumeric) := by
  have hlower : (splitFrom [] text).map lower = (splitFrom [] text).map lowered :=
    List.map_congr_left fun w hw => (isAsciiWord_of_mem_splitFrom h hw).lower_eq
  have hflat := flatten_splitFrom [] text
  rw [List.reverse_nil, List.nil_append] at hflat
  rw [splitWords, hlower, ← hflat]
  exact (List.map_flatten).symm

/-- A pass keeps the letters and digits of the text. -/
theorem lowered_awareOnce (startsSmall : Bool) (acronyms : List (List Char)) {text : List Char}
    (h : IsAsciiText text) :
    lowered (awareOnce startsSmall acronyms text) = lowered (text.filter isAlphanumeric) := by
  rw [awareOnce_eq, lowered_formWords (fun w hw => isSmallWord_of_mem_splitWords h hw),
    flatten_splitWords h]

/-- A pass leaves letters and digits. -/
theorem isAlphanum_awareOnce (startsSmall : Bool) (acronyms : List (List Char)) {text : List Char}
    (h : IsAsciiText text) : ∀ c ∈ awareOnce startsSmall acronyms text, c.isAlphanum = true :=
  isAlphanum_of_lowered_eq h (lowered_awareOnce startsSmall acronyms h)

/-- A pass asks for the words of the text only. -/
theorem awareOnce_congr {text other : List Char} (h : splitWords text = splitWords other)
    (startsSmall : Bool) (acronyms : List (List Char)) :
    awareOnce startsSmall acronyms text = awareOnce startsSmall acronyms other := by
  rw [awareOnce, awareOnce, h]

/-- The empty acronym is no word. -/
theorem wordForm_filter (acronyms : List (List Char)) {word : List Char} (hne : word ≠ []) :
    wordForm ((acronyms.filter (!·.isEmpty)).map lower) word =
      wordForm (acronyms.map lower) word := by
  have hcontains : ((acronyms.filter (!·.isEmpty)).map lower).contains word =
      (acronyms.map lower).contains word := by
    rw [Bool.eq_iff_iff, List.contains_iff_mem, List.contains_iff_mem, List.mem_map, List.mem_map]
    refine exists_congr fun a => and_congr_left fun ha => ?_
    rw [List.mem_filter]
    refine and_iff_left ?_
    cases a with
    | nil => exact absurd ha.symm hne
    | cons c a => rfl
  rw [wordForm, wordForm, hcontains]

/-- The empty acronym changes nothing. -/
theorem awareOnce_filter (startsSmall : Bool) (acronyms : List (List Char)) {text : List Char}
    (h : IsAsciiText text) :
    awareOnce startsSmall (acronyms.filter (!·.isEmpty)) text =
      awareOnce startsSmall acronyms text := by
  have hforms : (splitWords text).map (wordForm ((acronyms.filter (!·.isEmpty)).map lower)) =
      (splitWords text).map (wordForm (acronyms.map lower)) :=
    List.map_congr_left fun w hw => wordForm_filter acronyms (isSmallWord_of_mem_splitWords h hw).1
  rw [awareOnce_eq, awareOnce_eq, formWords, formWords, hforms]

/-- A joined style with acronyms that are whole words takes two passes. -/
theorem joinTwice_wordAware (startsSmall : Bool) (acronyms : List (List Char)) {text : List Char}
    (h : IsAsciiText text) :
    joinTwice startsSmall ⟨acronyms, true⟩ text =
      awareOnce startsSmall acronyms (awareOnce startsSmall acronyms text) := by
  have hnext : IsAsciiText (awareOnce startsSmall acronyms text) := fun c hc =>
    (isAlphanumeric_of_isAlphanum (isAlphanum_awareOnce startsSmall acronyms h c hc)).1
  rw [← awareOnce_filter startsSmall acronyms hnext, ← awareOnce_filter startsSmall acronyms h]
  rfl

/-- A pass raises the word over a place as an acronym. -/
def acronymOver (startsSmall : Bool) (acronyms : List (List Char)) (text : List Char) (i : Nat) :
    Bool :=
  raisedAt startsSmall (acronyms.map lower) (splitWords text) i

/-- Letters and digits of ASCII are ASCII text. -/
theorem isAsciiText_of_isAlphanum {text : List Char} (h : ∀ c ∈ text, c.isAlphanum = true) :
    IsAsciiText text := fun c hc => (isAlphanumeric_of_isAlphanum (h c hc)).1

section Joined

variable {text : List Char} (h : ∀ c ∈ text, c.isAlphanum = true)
include h

/-- Joined text is made of the words that it is split into. -/
theorem flatten_splitFrom_of_isAlphanum : (splitFrom [] text).flatten = text := by
  rw [flatten_splitFrom, List.reverse_nil, List.nil_append, List.filter_eq_self]
  exact fun c hc => (isAlphanumeric_of_isAlphanum (h c hc)).2

/-- Lowering the words of joined text keeps their lengths. -/
theorem length_lower_of_mem_splitFrom : ∀ w ∈ splitFrom [] text, (lower w).length = w.length := by
  intro w hw
  rw [(isAsciiWord_of_mem_splitFrom (isAsciiText_of_isAlphanum h) hw).lower_eq]
  exact length_eq_of_lowered (lowered_lowered w)

/-- The words of joined text have all its characters. -/
theorem flatten_splitWords_of_isAlphanum : (splitWords text).flatten = lowered text := by
  rw [flatten_splitWords (isAsciiText_of_isAlphanum h), List.filter_eq_self.mpr fun c hc =>
    (isAlphanumeric_of_isAlphanum (h c hc)).2]

/-- A pass keeps all characters of joined text. -/
theorem lowered_awareOnce_of_isAlphanum (startsSmall : Bool) (acronyms : List (List Char)) :
    lowered (awareOnce startsSmall acronyms text) = lowered text := by
  rw [lowered_awareOnce startsSmall acronyms (isAsciiText_of_isAlphanum h),
    ← flatten_splitWords (isAsciiText_of_isAlphanum h), flatten_splitWords_of_isAlphanum h]

/-- The words of joined text start where capitals start words. -/
theorem startsAt_splitWords (i : Nat) :
    startsAt (splitWords text) (i + 1) = wordAt text (i + 1) := by
  rw [splitWords, startsAt_map (length_lower_of_mem_splitFrom h), startsAt_splitFrom h]

/-- Joined texts with the same letters have the same words if words start at the same places. -/
theorem splitWords_congr {other : List Char} (hother : ∀ c ∈ other, c.isAlphanum = true)
    (hlow : lowered text = lowered other)
    (hwords : ∀ i, wordAt text (i + 1) = wordAt other (i + 1)) :
    splitWords text = splitWords other := by
  have hne : ∀ {t : List Char}, (∀ c ∈ t, c.isAlphanum = true) → ∀ w ∈ splitWords t, w ≠ [] :=
    fun ht w hw => (isSmallWord_of_mem_splitWords (isAsciiText_of_isAlphanum ht) hw).1
  have hflat : (splitWords text).flatten = (splitWords other).flatten := by
    rw [flatten_splitWords_of_isAlphanum h, flatten_splitWords_of_isAlphanum hother, hlow]
  refine eq_of_startsAt (hne h) (hne hother) hflat fun i => ?_
  cases i with
  | succ i => rw [startsAt_splitWords h, startsAt_splitWords hother, hwords]
  | zero =>
    have hempty : ∀ ws : List (List Char), (∀ w ∈ ws, w ≠ []) →
        startsAt ws 0 = !ws.flatten.isEmpty := by
      intro ws hws
      cases ws with
      | nil => rfl
      | cons w ws =>
        obtain ⟨c, rest, rfl⟩ := List.exists_cons_of_ne_nil (hws w List.mem_cons_self)
        rfl
    rw [hempty _ (hne h), hempty _ (hne hother), hflat]

/-- A pass leaves joined text as it is exactly if its words have their forms. -/
theorem awareOnce_eq_self_iff (startsSmall : Bool) (acronyms : List (List Char)) :
    awareOnce startsSmall acronyms text = text ↔
      formWords startsSmall (acronyms.map lower) (splitWords text) = splitFrom [] text := by
  have hlength : (formWords startsSmall (acronyms.map lower) (splitWords text)).map List.length =
      (splitFrom [] text).map List.length := by
    rw [map_length_formWords fun w hw =>
      isSmallWord_of_mem_splitWords (isAsciiText_of_isAlphanum h) hw, splitWords, List.map_map]
    exact List.map_congr_left (length_lower_of_mem_splitFrom h)
  rw [awareOnce_eq, List.eq_iff_flatten_eq, flatten_splitFrom_of_isAlphanum h]
  exact (and_iff_left hlength).symm

/-- What a pass does to joined text: capitals stand where words start and all over acronyms. -/
theorem capitalAt_awareOnce (startsSmall : Bool) (acronyms : List (List Char)) (i : Nat) :
    capitalAt (awareOnce startsSmall acronyms text) i =
      (wordAt text i && !(startsSmall && i == 0) ||
        letterAt text i && acronymOver startsSmall acronyms text i) := by
  have hsmall : ∀ w ∈ splitWords text, IsSmallWord w := fun w hw =>
    isSmallWord_of_mem_splitWords (isAsciiText_of_isAlphanum h) hw
  have hletter : letterAt (splitWords text).flatten i = letterAt text i := by
    rw [flatten_splitWords_of_isAlphanum h, letterAt_congr (lowered_lowered text)]
  rw [awareOnce_eq, capitalAt_formWords hsmall, hletter, acronymOver, raisedAt]
  cases i with
  | zero =>
    cases hwords : splitWords text with
    | nil =>
      have htext : letterAt text 0 = false := by
        rw [← hletter, hwords]
        rfl
      rw [wordAt, htext]
      rfl
    | cons word rest =>
      have hpos : 0 < word.length :=
        List.length_pos_iff.mpr (hsmall word (hwords ▸ List.mem_cons_self)).1
      rw [wordAt, startsAt_zero (by simp), inFirst, decide_eq_true hpos, beq_self_eq_true]
      cases letterAt text 0 <;> cases startsSmall <;> simp
  | succ i =>
    rw [startsAt_splitWords h]
    cases hword : wordAt text (i + 1) with
    | false => simp [Bool.and_assoc]
    | true =>
      have hcapital : capitalAt text (i + 1) = true := (Bool.and_eq_true_iff.mp hword).1
      -- A place where a later word starts does not lie in the first one.
      have hfirst : inFirst startsSmall (splitWords text) (i + 1) = false := by
        have hstart := startsAt_splitWords h i
        rw [hword] at hstart
        cases hwords : splitWords text with
        | nil => rfl
        | cons word rest =>
          rw [inFirst, decide_eq_false, Bool.and_false]
          intro hin
          rw [hwords, startsAt_inside (Nat.succ_pos i) hin] at hstart
          cases hstart
      rw [letterAt_of_capitalAt hcapital, hfirst]
      simp

/-- An acronym over a place is over the next one too, unless a word starts there. -/
theorem acronymOver_succ {i : Nat} (hi : i + 1 < text.length) (hword : wordAt text (i + 1) = false)
    (startsSmall : Bool) (acronyms : List (List Char)) :
    acronymOver startsSmall acronyms text (i + 1) = acronymOver startsSmall acronyms text i := by
  refine raisedAt_succ (fun w hw => isSmallWord_of_mem_splitWords (isAsciiText_of_isAlphanum h) hw)
    ?_ ?_ startsSmall (acronyms.map lower)
  · rw [flatten_splitWords_of_isAlphanum h, length_eq_of_lowered (lowered_lowered text)]
    exact hi
  · rw [startsAt_splitWords h, hword]

variable {startsSmall : Bool} {acronyms : List (List Char)} {i : Nat}

/-- A pass leaves a capital where a word starts behind another. -/
theorem capitalAt_awareOnce_of_wordAt (hword : wordAt text (i + 1) = true) :
    capitalAt (awareOnce startsSmall acronyms text) (i + 1) = true := by
  rw [capitalAt_awareOnce h, hword]
  simp

/-- A letter behind a digit that starts a word starts one after a pass. -/
theorem wordAt_awareOnce_of_wordAt (hdigit : letterAt text i = false)
    (hword : wordAt text (i + 1) = true) :
    wordAt (awareOnce startsSmall acronyms text) (i + 1) = true := by
  have hbehind : capitalAt (awareOnce startsSmall acronyms text) i = false := by
    rw [Bool.eq_false_iff]
    intro hbad
    have hletter := letterAt_of_capitalAt hbad
    rw [letterAt_congr (lowered_awareOnce_of_isAlphanum h startsSmall acronyms), hdigit] at hletter
    cases hletter
  rw [wordAt, capitalAt_awareOnce_of_wordAt h hword, hbehind]
  rfl

/-- A letter behind a letter starts a word after a pass only if it did before. -/
theorem wordAt_of_wordAt_awareOnce (hletter : letterAt text i = true)
    (hword : wordAt (awareOnce startsSmall acronyms text) (i + 1) = true) :
    wordAt text (i + 1) = true := by
  by_contra hnone
  have hnone : wordAt text (i + 1) = false := by simpa using hnone
  have hbound : ∀ k, letterAt text k = true → k < text.length := by
    intro k hk
    by_contra hlong
    rw [letterAt, List.getElem?_eq_none (by omega)] at hk
    cases hk
  obtain ⟨hcapital, hplace⟩ := Bool.and_eq_true_iff.mp hword
  -- A capital that starts no word belongs to an acronym, which is raised on both sides of it.
  have hnow := hcapital
  rw [capitalAt_awareOnce h, hnone, Bool.false_and, Bool.false_or, Bool.and_eq_true] at hnow
  obtain ⟨hhere, hover⟩ := hnow
  have hbefore : capitalAt (awareOnce startsSmall acronyms text) i = true := by
    rw [acronymOver_succ h (hbound _ hhere) hnone] at hover
    rw [capitalAt_awareOnce h, hletter, hover]
    simp
  have hafter : smallAt (awareOnce startsSmall acronyms text) (i + 2) = false := by
    rw [smallAt_eq, letterAt_congr (lowered_awareOnce_of_isAlphanum h startsSmall acronyms)]
    cases hnext : letterAt text (i + 2) with
    | false => rfl
    | true =>
      have hraised : capitalAt (awareOnce startsSmall acronyms text) (i + 2) = true := by
        cases hstart : wordAt text (i + 2) with
        | true => exact capitalAt_awareOnce_of_wordAt h hstart
        | false =>
          rw [capitalAt_awareOnce h, hnext, acronymOver_succ h (hbound _ hnext) hstart, hover]
          simp
      rw [hraised]
      rfl
  rw [hbefore, hafter] at hplace
  cases hplace

/-- A text that two passes give back is changed by none. -/
theorem awareOnce_eq_self_of_period
    (hperiod : awareOnce startsSmall acronyms (awareOnce startsSmall acronyms text) = text) :
    awareOnce startsSmall acronyms text = text := by
  have hlow := lowered_awareOnce_of_isAlphanum h startsSmall acronyms
  have hnext := isAlphanum_awareOnce startsSmall acronyms (isAsciiText_of_isAlphanum h)
  have hwords : ∀ i, wordAt (awareOnce startsSmall acronyms text) (i + 1) =
      wordAt text (i + 1) := by
    intro i
    rw [Bool.eq_iff_iff]
    cases hletter : letterAt text i with
    | true =>
      refine ⟨wordAt_of_wordAt_awareOnce h hletter, fun hword => ?_⟩
      rw [← hperiod] at hword
      exact wordAt_of_wordAt_awareOnce hnext (by rw [letterAt_congr hlow, hletter]) hword
    | false =>
      refine ⟨fun hword => ?_, wordAt_awareOnce_of_wordAt h hletter⟩
      rw [← hperiod]
      exact wordAt_awareOnce_of_wordAt hnext (by rw [letterAt_congr hlow, hletter]) hword
  have hsame : splitWords (awareOnce startsSmall acronyms text) = splitWords text :=
    splitWords_congr hnext h hlow hwords
  calc awareOnce startsSmall acronyms text
      = awareOnce startsSmall acronyms (awareOnce startsSmall acronyms text) :=
        (awareOnce_congr hsame startsSmall acronyms).symm
    _ = text := hperiod

end Joined

end LabelTally.Label
