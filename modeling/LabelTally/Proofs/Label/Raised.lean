import LabelTally.Proofs.Label.Forms

/-!
# Raised words are cut again after digits

Raising a word can make a place where a word starts: a small letter after a digit starts no word, a
capital does. So a text converted to words in capitals is in that style exactly if the text has no
small letter directly after a digit.
-/

namespace LabelTally.Label

open Text

/-- No letter follows a digit. -/
def NoLetterAfterDigit (a b : Char) : Prop := ¬(a.isDigit = true ∧ b.isAlpha = true)

/-- No small letter follows a digit. -/
def NoSmallAfterDigit (a b : Char) : Prop := ¬(a.isDigit = true ∧ b.isLower = true)

instance : DecidableRel NoSmallAfterDigit := fun a b =>
  inferInstanceAs (Decidable ¬(a.isDigit = true ∧ b.isLower = true))

/-- A mark is no digit that something follows. -/
theorem noSmallAfterDigit_of_mark {a : Char} (h : isAlphanumeric a = false) (b : Char) :
    NoSmallAfterDigit a b ∧ NoSmallAfterDigit b a := by
  have hnot : ¬a.isAlphanum = true := fun halnum => by
    rw [(isAlphanumeric_of_isAlphanum halnum).2] at h
    cases h
  exact ⟨fun hpair => hnot (isAlphanum_of_isDigit hpair.1),
    fun hpair => hnot (isAlphanum_of_isLower hpair.2)⟩

/-- A capital is no small letter. -/
theorem noSmallAfterDigit_of_upper {b : Char} (h : isUpper b = true) (a : Char) :
    NoSmallAfterDigit a b := by
  rintro ⟨_, hlower⟩
  rw [(isUpper_eq_false (Or.inl hlower)).2] at h
  cases h

/-- Where no word starts, a letter after a digit is a small one. -/
theorem noLetterAfterDigit_iff {a b : Char} {next : Option Char}
    (h : ¬(isUpper b = true ∧ startsWord (some a) next = true)) :
    NoLetterAfterDigit a b ↔ NoSmallAfterDigit a b := by
  have hupper : ¬(a.isDigit = true ∧ b.isUpper = true) := by
    rintro ⟨hdigit, hupper⟩
    have ha := (isAlphanumeric_of_isAlphanum (isAlphanum_of_isDigit hdigit)).1
    have hb := (isAlphanumeric_of_isAlphanum (isAlphanum_of_isUpper hupper)).1
    refine h ⟨by rw [isUpper_of_ascii hb, hupper], ?_⟩
    simp [startsWord, isDigit_of_ascii ha, hdigit]
  rw [NoLetterAfterDigit, NoSmallAfterDigit, Char.isAlpha, Bool.or_eq_true, and_or_left]
  simp only [hupper, false_or]

/-- No letter follows a digit in a word exactly if no small letter does in the text. The induction
carries the open word, last character first. -/
theorem forall_isChain_splitFrom_iff (current text : List Char) :
    (∀ w ∈ splitFrom current text, w.IsChain NoLetterAfterDigit) ↔
      (current.IsChain fun b a => NoLetterAfterDigit a b) ∧
        (current.head?.toList ++ text).IsChain NoSmallAfterDigit := by
  have hclose : ∀ open' : List Char, (∀ w ∈ closeWord open', w.IsChain NoLetterAfterDigit) ↔
      open'.IsChain fun b a => NoLetterAfterDigit a b := by
    intro open'
    cases open' with
    | nil => simp
    | cons c open' =>
      simp only [closeWord_cons, List.mem_singleton, forall_eq, List.isChain_reverse]
  induction text generalizing current with
  | nil =>
    rw [splitFrom, hclose]
    cases current <;> simp
  | cons c rest ih =>
    rw [splitFrom]
    by_cases halnum : isAlphanumeric c = true
    · rw [if_neg (by simp [halnum])]
      cases current with
      | nil =>
        rw [if_neg (by simp)]
        exact (ih [c]).trans (by simp)
      | cons p current =>
        by_cases hstart : isUpper c = true ∧ startsWord (some p) rest.head? = true
        · rw [if_pos (by simp [hstart]), List.forall_mem_append, hclose]
          refine (and_congr_right' (ih [c])).trans ?_
          simp [noSmallAfterDigit_of_upper hstart.1 p]
        · rw [if_neg (by simpa using hstart)]
          refine (ih (c :: p :: current)).trans ?_
          simp only [List.head?_cons, Option.toList_some, List.singleton_append,
            List.isChain_cons_cons, noLetterAfterDigit_iff hstart]
          tauto
    · have hmark : isAlphanumeric c = false := by simpa using halnum
      rw [if_pos (by simp [hmark]), List.forall_mem_append, hclose]
      refine (and_congr_right' (ih [])).trans ?_
      have hrest : (c :: rest).IsChain NoSmallAfterDigit ↔ rest.IsChain NoSmallAfterDigit := by
        rw [List.isChain_cons]
        exact and_iff_right fun d _ => (noSmallAfterDigit_of_mark hmark d).1
      cases current with
      | nil => simp [hrest]
      | cons p current => simp [hrest, (noSmallAfterDigit_of_mark hmark p).2]

/-- No letter follows a digit in any word exactly if no small letter does in the text. -/
theorem forall_isChain_words_iff (text : List Char) :
    (∀ w ∈ splitFrom [] text, w.IsChain NoLetterAfterDigit) ↔ text.IsChain NoSmallAfterDigit := by
  rw [forall_isChain_splitFrom_iff]
  simp

/-- A raised word is left as it is exactly if no letter follows a digit in the word. -/
theorem isFixed_upper_map_iff {word : List Char} (h : IsAsciiWord word) :
    IsFixed upper (word.map Char.toUpper) ↔ word.IsChain NoLetterAfterDigit := by
  have hraised : IsAsciiWord (word.map Char.toUpper) := h.map isAlphanum_toUpper
  have hchars : ∀ c ∈ word.map Char.toUpper, c.isUpper = true ∨ c.isDigit = true := by
    intro c hc
    obtain ⟨d, hd, rfl⟩ := List.mem_map.mp hc
    have halnum := h.2 d hd
    rw [Char.isAlphanum, Bool.or_eq_true] at halnum
    simpa using halnum
  rw [isFixed_upper_iff hraised, List.isChain_map]
  simp only [NoCapitalAfterDigit, isDigit_toUpper, Char.isUpper_toUpper_eq_isAlpha]
  exact and_iff_right hchars

/-- A converted text is in `SCREAMING_SNAKE_CASE` exactly if no small letter of the text follows a
digit. -/
theorem inStyle_convert_screamingSnake_iff {text : List Char} (h : IsAsciiText text)
    (rule : AcronymRule) :
    inStyle .screamingSnake rule (convert .screamingSnake rule text) = true ↔
      text.IsChain NoSmallAfterDigit := by
  have hraised : ∀ w ∈ splitFrom [] text, upper (lower w) = w.map Char.toUpper := fun w hw =>
    (isAsciiWord_of_mem_splitFrom h hw).upper_lower
  have hconvert : convert .screamingSnake rule text =
      joinWith '_' ((splitFrom [] text).map fun w => w.map Char.toUpper) := by
    show joinWith '_' ((splitWords text).map upper) = _
    rw [splitWords, List.map_map]
    exact congrArg _ (List.map_congr_left hraised)
  have hwords : ∀ w ∈ (splitFrom [] text).map fun w => w.map Char.toUpper, IsAsciiWord w := by
    intro w hw
    obtain ⟨raw, hraw, rfl⟩ := List.mem_map.mp hw
    exact (isAsciiWord_of_mem_splitFrom h hraw).map isAlphanum_toUpper
  rw [inStyle, beq_iff_eq, hconvert, ← forall_isChain_words_iff]
  refine (separate_joinWith_iff isMark_lowLine keepsWords_upper hwords).trans ?_
  rw [List.forall_mem_map]
  exact forall₂_congr fun w hw => isFixed_upper_map_iff (isAsciiWord_of_mem_splitFrom h hw)

/-- `a1b` becomes `A1B`, which is not in style: it would become `A1_B`. -/
theorem not_inStyle_convert_letter_after_digit :
    IsAsciiText ['a', '1', 'b'] ∧
      inStyle .screamingSnake {} (convert .screamingSnake {} ['a', '1', 'b']) = false := by
  have hascii : IsAsciiText ['a', '1', 'b'] := by decide
  refine ⟨hascii, ?_⟩
  rw [Bool.eq_false_iff, Ne, inStyle_convert_screamingSnake_iff hascii]
  decide

end LabelTally.Label
