import LabelTally.Proofs.Label.Grammar
import LabelTally.Proofs.Label.Places

/-!
# The forms of joined words

Where acronyms have to be whole words, a word of a joined style is raised if it is an acronym and
capitalized if not; the first word of a text that starts small keeps its small letters. The capitals
of the joined text are told place by place, by where words start and which word is over the place.
-/

namespace LabelTally.Label

open Text

/-- The form of a lowered word. -/
def wordForm (wanted : List (List Char)) (word : List Char) : List Char :=
  if wanted.contains word then upper word else capitalize word

/-- Words in their forms; in a text that starts small the first word stays as it is. -/
def formWords (startsSmall : Bool) (wanted words : List (List Char)) : List (List Char) :=
  if startsSmall then words.take 1 ++ (words.map (wordForm wanted)).drop 1
  else words.map (wordForm wanted)

/-- In a text that does not start small all words have their forms. -/
theorem formWords_false (wanted words : List (List Char)) :
    formWords false wanted words = words.map (wordForm wanted) := rfl

/-- In a text that starts small the words behind the first have their forms. -/
theorem formWords_true_cons (wanted : List (List Char)) (word : List Char)
    (rest : List (List Char)) :
    formWords true wanted (word :: rest) = word :: rest.map (wordForm wanted) := rfl

/-- One pass of a joined style with acronyms that are whole words. -/
def awareOnce (startsSmall : Bool) (acronyms : List (List Char)) (text : List Char) : List Char :=
  joinWords startsSmall ⟨acronyms, true⟩ (splitWords text)

/-- One pass joins the words in their forms. -/
theorem awareOnce_eq (startsSmall : Bool) (acronyms : List (List Char)) (text : List Char) :
    awareOnce startsSmall acronyms text =
      (formWords startsSmall (acronyms.map lower) (splitWords text)).flatten := by
  have hcase : caseWords ⟨acronyms, true⟩ (splitWords text) =
      (splitWords text).map (wordForm (acronyms.map lower)) := by
    rw [caseWords]
    cases acronyms with
    | nil => rfl
    | cons a acronyms => rfl
  simp only [awareOnce, joinWords, hcase, Bool.or_true, if_true, formWords]

/-- The words of ASCII text are of small letters and digits. -/
theorem isSmallWord_of_mem_splitWords {text word : List Char} (h : IsAsciiText text)
    (hword : word ∈ splitWords text) : IsSmallWord word := by
  obtain ⟨raw, hraw, rfl⟩ := List.mem_map.mp hword
  have hascii := isAsciiWord_of_mem_splitFrom h hraw
  rw [hascii.lower_eq]
  refine ⟨hascii.lowered.1, fun c hc => ?_⟩
  obtain ⟨d, hd, rfl⟩ := List.mem_map.mp hc
  exact (toLower_eq_iff (hascii.lowered.2 _ hc)).mp (Char.toLower_toLower_eq_toLower d)

/-- Texts with the same small form are equally long. -/
theorem length_eq_of_lowered {text other : List Char} (h : lowered text = lowered other) :
    text.length = other.length := by
  simpa [lowered] using congrArg List.length h

section Word

variable {word : List Char} (h : IsSmallWord word)
include h

/-- A small word is a word in ASCII. -/
theorem IsSmallWord.isAsciiWord : IsAsciiWord word :=
  ⟨h.1, fun c hc => (h.2 c hc).elim isAlphanum_of_isLower isAlphanum_of_isDigit⟩

/-- A small word has no capitals. -/
theorem IsSmallWord.capitalAt (i : Nat) : capitalAt word i = false := by
  rw [Text.capitalAt]
  cases hc : word[i]? with
  | none => rfl
  | some c => exact not_isUpper_of_small (h.2 c (List.mem_of_getElem? hc))

/-- A small word is its own small form. -/
theorem IsSmallWord.lowered_eq : lowered word = word := by
  rw [lowered, map_eq_self_iff]
  exact fun c hc => (toLower_eq_iff (h.isAsciiWord.2 c hc)).mpr (h.2 c hc)

/-- The form of a word has its letters. -/
theorem IsSmallWord.lowered_wordForm (wanted : List (List Char)) :
    lowered (wordForm wanted word) = word := by
  rw [wordForm]
  split
  · rw [upper_of_ascii h.isAsciiWord.isAsciiText, lowered, List.map_map]
    conv_rhs => rw [← h.lowered_eq, lowered]
    exact List.map_congr_left fun c _ => Char.toLower_toUpper_eq_toLower c
  · obtain ⟨c, rest, rfl⟩ := List.exists_cons_of_ne_nil h.1
    have hself := h.lowered_eq
    rw [capitalize_of_ascii (h.isAsciiWord.isAsciiText c List.mem_cons_self)]
    rw [lowered, List.map_cons] at hself ⊢
    rw [Char.toLower_toUpper_eq_toLower, hself]

/-- The form of a word is as long as the word. -/
theorem IsSmallWord.length_wordForm (wanted : List (List Char)) :
    (wordForm wanted word).length = word.length :=
  length_eq_of_lowered ((h.lowered_wordForm wanted).trans h.lowered_eq.symm)

/-- The form of a word has capitals at its first letter, or at all if the word is an acronym. -/
theorem IsSmallWord.capitalAt_wordForm (wanted : List (List Char)) (i : Nat) :
    Text.capitalAt (wordForm wanted word) i =
      (letterAt word i && (i == 0 || wanted.contains word)) := by
  rw [wordForm]
  by_cases hacronym : wanted.contains word = true
  · rw [if_pos hacronym, hacronym, Bool.or_true, Bool.and_true,
      upper_of_ascii h.isAsciiWord.isAsciiText, Text.capitalAt, letterAt, List.getElem?_map]
    cases word[i]? with
    | none => rfl
    | some c => exact Char.isUpper_toUpper_eq_isAlpha c
  · rw [if_neg hacronym, Bool.eq_false_iff.mpr hacronym, Bool.or_false]
    obtain ⟨c, rest, rfl⟩ := List.exists_cons_of_ne_nil h.1
    rw [capitalize_of_ascii (h.isAsciiWord.isAsciiText c List.mem_cons_self)]
    cases i with
    | zero =>
      rw [beq_self_eq_true, Bool.and_true]
      exact Char.isUpper_toUpper_eq_isAlpha c
    | succ i =>
      rw [beq_eq_false_iff_ne.mpr (Nat.succ_ne_zero i), Bool.and_false]
      exact h.capitalAt (i + 1)

end Word

/-- The capitals of a text are those of its parts. -/
theorem capitalAt_append (left right : List Char) (i : Nat) :
    capitalAt (left ++ right) i =
      if i < left.length then capitalAt left i else capitalAt right (i - left.length) := by
  rw [capitalAt, capitalAt, capitalAt, List.getElem?_append]
  split <;> rfl

/-- The letters of a text are those of its parts. -/
theorem letterAt_append (left right : List Char) (i : Nat) :
    letterAt (left ++ right) i =
      if i < left.length then letterAt left i else letterAt right (i - left.length) := by
  rw [letterAt, letterAt, letterAt, List.getElem?_append]
  split <;> rfl

/-- Joined words in their forms have capitals where words start and all over acronyms. -/
theorem capitalAt_flatten_wordForm (wanted : List (List Char)) {words : List (List Char)}
    (h : ∀ w ∈ words, IsSmallWord w) (i : Nat) :
    capitalAt (words.map (wordForm wanted)).flatten i =
      (letterAt words.flatten i &&
        (startsAt words i || wanted.contains (wordOver words i))) := by
  induction words generalizing i with
  | nil => rfl
  | cons word rest ih =>
    obtain ⟨hword, hrest⟩ := List.forall_mem_cons.mp h
    rw [List.map_cons, List.flatten_cons, List.flatten_cons, capitalAt_append, letterAt_append,
      hword.length_wordForm, wordOver, hword.capitalAt_wordForm, ih hrest]
    by_cases hin : i < word.length
    · rw [if_pos hin, if_pos hin, if_pos hin, startsAt, decide_eq_false (by omega), Bool.false_and,
        Bool.or_false]
    · obtain ⟨k, rfl⟩ := Nat.exists_eq_add_of_le (Nat.le_of_not_lt hin)
      rw [if_neg hin, if_neg hin, if_neg hin, startsAt_behind hword.1, Nat.add_sub_cancel_left]

/-- The place lies in the first word of a text that starts small. -/
def inFirst (startsSmall : Bool) : List (List Char) → Nat → Bool
  | [], _ => false
  | word :: _, i => startsSmall && decide (i < word.length)

/-- A text that does not start small has no such word. -/
theorem inFirst_false (words : List (List Char)) (i : Nat) : inFirst false words i = false := by
  cases words <;> rfl

/-- The place lies in an acronym that a pass raises. -/
def raisedAt (startsSmall : Bool) (wanted words : List (List Char)) (i : Nat) : Bool :=
  wanted.contains (wordOver words i) && !inFirst startsSmall words i

section Words

variable {words : List (List Char)} (h : ∀ w ∈ words, IsSmallWord w)
include h

/-- Words in their forms have the letters of the words. -/
theorem lowered_formWords (startsSmall : Bool) (wanted : List (List Char)) :
    lowered (formWords startsSmall wanted words).flatten = words.flatten := by
  have hforms : ∀ ws : List (List Char), (∀ w ∈ ws, IsSmallWord w) →
      lowered (ws.map (wordForm wanted)).flatten = ws.flatten := by
    intro ws hws
    rw [lowered, List.map_flatten, List.map_map]
    exact congrArg List.flatten ((List.map_congr_left fun w hw =>
      (hws w hw).lowered_wordForm wanted).trans (List.map_id ws))
  cases startsSmall with
  | false => exact hforms words h
  | true =>
    cases words with
    | nil => rfl
    | cons word rest =>
      obtain ⟨hword, hrest⟩ := List.forall_mem_cons.mp h
      rw [formWords_true_cons, List.flatten_cons, lowered, List.map_append, ← lowered, ← lowered,
        hforms rest hrest, hword.lowered_eq, List.flatten_cons]

/-- Words in their forms are as long as the words. -/
theorem map_length_formWords (startsSmall : Bool) (wanted : List (List Char)) :
    (formWords startsSmall wanted words).map List.length = words.map List.length := by
  have hforms : ∀ ws : List (List Char), (∀ w ∈ ws, IsSmallWord w) →
      (ws.map (wordForm wanted)).map List.length = ws.map List.length := by
    intro ws hws
    rw [List.map_map]
    exact List.map_congr_left fun w hw => (hws w hw).length_wordForm wanted
  cases startsSmall with
  | false => exact hforms words h
  | true =>
    cases words with
    | nil => rfl
    | cons word rest =>
      rw [formWords_true_cons, List.map_cons, List.map_cons,
        hforms rest (List.forall_mem_cons.mp h).2]

/-- In a text that starts small the capitals of the first word are missing. -/
theorem capitalAt_formWords (startsSmall : Bool) (wanted : List (List Char)) (i : Nat) :
    capitalAt (formWords startsSmall wanted words).flatten i =
      (letterAt words.flatten i && (startsAt words i || wanted.contains (wordOver words i)) &&
        !inFirst startsSmall words i) := by
  rw [← capitalAt_flatten_wordForm wanted h]
  cases startsSmall with
  | false => rw [inFirst_false, Bool.not_false, Bool.and_true, formWords_false]
  | true =>
    cases words with
    | nil => rfl
    | cons word rest =>
      obtain ⟨hword, hrest⟩ := List.forall_mem_cons.mp h
      rw [formWords_true_cons, List.map_cons, List.flatten_cons, List.flatten_cons,
        capitalAt_append, capitalAt_append, hword.length_wordForm, inFirst, Bool.true_and]
      by_cases hin : i < word.length
      · rw [if_pos hin, hword.capitalAt, decide_eq_true hin, Bool.not_true, Bool.and_false]
      · rw [if_neg hin, if_neg hin, decide_eq_false hin, Bool.not_false, Bool.and_true]

/-- Whether a pass raises a place is the same for all places of a word. -/
theorem raisedAt_succ {i : Nat} (hi : i + 1 < words.flatten.length)
    (hstart : startsAt words (i + 1) = false) (startsSmall : Bool) (wanted : List (List Char)) :
    raisedAt startsSmall wanted words (i + 1) = raisedAt startsSmall wanted words i := by
  have hfirst : inFirst startsSmall words (i + 1) = inFirst startsSmall words i := by
    cases words with
    | nil => rfl
    | cons word rest =>
      have hword := (h word List.mem_cons_self).1
      have hne : i + 1 ≠ word.length := by
        intro heq
        have hrest : rest ≠ [] := by
          rintro rfl
          simp only [List.flatten_cons, List.flatten_nil, List.append_nil] at hi
          omega
        rw [heq, ← Nat.add_zero word.length, startsAt_behind hword, startsAt_zero hrest] at hstart
        cases hstart
      rw [inFirst, inFirst]
      exact congrArg _ (decide_eq_decide.mpr (by omega))
  rw [raisedAt, raisedAt, hfirst, wordOver_succ (fun w hw => (h w hw).1) hi hstart]

end Words

end LabelTally.Label
