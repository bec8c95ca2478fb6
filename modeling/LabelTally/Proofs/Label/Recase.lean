import LabelTally.Proofs.Label.Words

/-!
# The case of joined words

Capitalizing the words of a text and joining them keeps its letters and digits and sets their case.
In text that is joined already, capitals are left where words start: at a capital that does not
follow a capital or that a small letter follows.
-/

namespace LabelTally.Label

open Text

/-- The text with the case that its words have when they are capitalized and joined. -/
def recase (previous : Option Char) : List Char → List Char
  | [] => []
  | c :: rest =>
    if isAlphanumeric c then
      (if previous.isNone || (isUpper c && startsWord previous rest.head?) then c.toUpper
        else c.toLower) :: recase (some c) rest
    else recase none rest

/-- A word of one character is raised. -/
theorem capitalize_lower_singleton {c : Char} (h : isAscii c = true) :
    capitalize (lower [c]) = [c.toUpper] := by
  have hlow : isAscii c.toLower = true := by rw [isAscii_toLower, h]
  have hsingle : IsAsciiText [c] := by simpa [IsAsciiText] using h
  rw [lower_of_ascii hsingle, lowered, List.map_singleton, capitalize_of_ascii hlow,
    Char.toUpper_toLower_eq_toUpper]

/-- A character that a word goes on with is lowered. -/
theorem capitalize_lower_concat {word : List Char} (hne : word ≠ []) {c : Char}
    (h : IsAsciiText (word ++ [c])) :
    capitalize (lower (word ++ [c])) = capitalize (lower word) ++ [c.toLower] := by
  have hword : IsAsciiText word := fun d hd => h d (List.mem_append_left _ hd)
  cases word with
  | nil => exact absurd rfl hne
  | cons d word =>
    have hlow : isAscii d.toLower = true := by
      rw [isAscii_toLower]
      exact hword d List.mem_cons_self
    rw [lower_of_ascii h, lower_of_ascii hword, lowered, lowered, List.map_append]
    rw [List.map_cons, List.cons_append, capitalize_of_ascii hlow, capitalize_of_ascii hlow]
    rfl

/-- Words are capitalized and joined in one pass over the text. -/
theorem flatten_capitalize_splitFrom {current text : List Char} (hcurrent : IsAsciiText current)
    (ht : IsAsciiText text) :
    ((splitFrom current text).map fun w => capitalize (lower w)).flatten =
      capitalize (lower current.reverse) ++ recase current.head? text := by
  have hclose : ∀ open' : List Char,
      ((closeWord open').map fun w => capitalize (lower w)).flatten =
        capitalize (lower open'.reverse) := by
    intro open'
    cases open' with
    | nil => rfl
    | cons c open' => simp
  induction text generalizing current with
  | nil => rw [splitFrom, hclose, recase, List.append_nil]
  | cons c rest ih =>
    have hc := ht c List.mem_cons_self
    have hrest : IsAsciiText rest := fun d hd => ht d (List.mem_cons_of_mem _ hd)
    have hsingle : IsAsciiText [c] := by simpa [IsAsciiText] using hc
    rw [splitFrom, recase]
    by_cases halnum : isAlphanumeric c = true
    · rw [if_neg (by simp [halnum]), if_pos halnum]
      cases current with
      | nil =>
        rw [if_neg (by simp), ih hsingle hrest]
        simp only [List.reverse_singleton, capitalize_lower_singleton hc]
        rfl
      | cons p current =>
        by_cases hstart : isUpper c = true ∧ startsWord (some p) rest.head? = true
        · rw [if_pos (by simp [hstart]), List.map_append, List.flatten_append, hclose,
            ih hsingle hrest, if_pos (by simp [hstart])]
          simp only [List.reverse_singleton, capitalize_lower_singleton hc]
          rfl
        · have hlonger : IsAsciiText (c :: p :: current) := by
            intro d hd
            rcases List.mem_cons.mp hd with rfl | hd
            · exact hc
            · exact hcurrent d hd
          have hword : (c :: p :: current).reverse = (p :: current).reverse ++ [c] :=
            List.reverse_cons
          have hascii : IsAsciiText ((p :: current).reverse ++ [c]) := by
            intro d hd
            exact hlonger d (List.mem_reverse.mp (hword ▸ hd))
          rw [if_neg (by simpa using hstart), ih hlonger hrest, if_neg (by simpa using hstart),
            hword, capitalize_lower_concat (by simp) hascii, List.append_assoc]
          rfl
    · rw [if_pos (by simpa using halnum), if_neg halnum, List.map_append, List.flatten_append,
        hclose, ih (by simp [IsAsciiText]) hrest]
      rfl

/-- The pass keeps the letters and digits of the text. -/
theorem lowered_recase (previous : Option Char) (text : List Char) :
    lowered (recase previous text) = lowered (text.filter isAlphanumeric) := by
  induction text generalizing previous with
  | nil => rfl
  | cons c rest ih =>
    have htail : ∀ before, lowered (recase before rest) = lowered (rest.filter isAlphanumeric) := ih
    rw [recase]
    by_cases halnum : isAlphanumeric c = true
    · rw [if_pos halnum, List.filter_cons_of_pos halnum]
      simp only [lowered, List.map_cons] at htail ⊢
      rw [htail]
      split
      · rw [Char.toLower_toUpper_eq_toLower]
      · rw [Char.toLower_toLower_eq_toLower]
    · rw [if_neg halnum, List.filter_cons_of_neg halnum, htail]

/-- Text with the letters and digits of ASCII text has nothing else. -/
theorem isAlphanum_of_lowered_eq {text other : List Char} (h : IsAsciiText text)
    (heq : lowered other = lowered (text.filter isAlphanumeric)) :
    ∀ c ∈ other, c.isAlphanum = true := by
  intro c hc
  have hmem : c.toLower ∈ lowered (text.filter isAlphanumeric) := heq ▸ List.mem_map_of_mem hc
  obtain ⟨d, hd, he⟩ := List.mem_map.mp hmem
  obtain ⟨hd, halnum⟩ := List.mem_filter.mp hd
  rw [← isAlphanum_toLower, ← he, isAlphanum_toLower, ← isAlphanumeric_of_ascii (h d hd), halnum]

/-- A letter stands at a place of the text. -/
def letterAt (text : List Char) (i : Nat) : Bool := text[i]?.any Char.isAlpha

/-- A small letter stands at a place of the text. -/
def smallAt (text : List Char) (i : Nat) : Bool := text[i]?.any Char.isLower

/-- A word starts with a letter at a place of joined text. -/
def wordAt (text : List Char) : Nat → Bool
  | 0 => letterAt text 0
  | i + 1 => capitalAt text (i + 1) && (!capitalAt text i || smallAt text (i + 2))

/-- The letters of a text have places that do not depend on case. -/
theorem letterAt_congr {text other : List Char} (h : lowered text = lowered other) (i : Nat) :
    letterAt text i = letterAt other i := by
  have hlow : ∀ t : List Char, letterAt t i = letterAt (lowered t) i := by
    intro t
    simp only [letterAt, lowered, List.getElem?_map]
    cases t[i]? <;> simp
  rw [hlow text, h, ← hlow other]

/-- A small letter is a letter that is no capital. -/
theorem smallAt_eq (text : List Char) (i : Nat) :
    smallAt text i = (letterAt text i && !capitalAt text i) := by
  unfold smallAt letterAt capitalAt
  cases text[i]? with
  | none => rfl
  | some c =>
    cases hlower : c.isLower with
    | false => simp [Char.isAlpha, hlower]
    | true => simp [Char.isAlpha, hlower, Char.not_isUpper_of_isLower hlower]

/-- A capital is a letter. -/
theorem letterAt_of_capitalAt {text : List Char} {i : Nat} (h : capitalAt text i = true) :
    letterAt text i = true := by
  unfold capitalAt at h
  unfold letterAt
  cases hc : text[i]? with
  | none => simp [hc] at h
  | some c =>
    rw [hc, Option.any_some] at h
    simp [Char.isAlpha, h]

/-- Between letters and digits a capital starts a word unless it follows a capital and no small
letter follows. -/
theorem startsWord_of_alphanum {p : Char} (hp : p.isAlphanum = true) {rest : List Char}
    (hrest : ∀ c ∈ rest, c.isAlphanum = true) :
    startsWord (some p) rest.head? = (!p.isUpper || rest.head?.any Char.isLower) := by
  have hascii := (isAlphanumeric_of_isAlphanum hp).1
  have hnext : rest.head?.any isLower = rest.head?.any Char.isLower := by
    cases rest with
    | nil => rfl
    | cons d rest =>
      rw [List.head?_cons, Option.any_some, Option.any_some,
        isLower_of_ascii (isAlphanumeric_of_isAlphanum (hrest d List.mem_cons_self)).1]
  rw [startsWord, hnext, Option.any_some, Option.any_some, Option.any_some, isLower_of_ascii hascii,
    isDigit_of_ascii hascii, isUpper_of_ascii hascii]
  rw [Char.isAlphanum, Char.isAlpha] at hp
  cases hupper : p.isUpper with
  | false =>
    rw [hupper, Bool.false_or] at hp
    simp [hp]
  | true =>
    have hlower : p.isLower = false := Bool.eq_false_iff.mpr (Char.not_isLower_of_isUpper hupper)
    simp [hlower, not_isDigit_of_isUpper hupper]

/-- Behind a character of joined text the pass sets capitals where words start. -/
theorem capitalAt_recase_some {p : Char} {text : List Char}
    (h : ∀ c ∈ p :: text, c.isAlphanum = true) (i : Nat) :
    capitalAt (recase (some p) text) i = wordAt (p :: text) (i + 1) := by
  induction text generalizing p i with
  | nil => rfl
  | cons c rest ih =>
    have hp := h p List.mem_cons_self
    have hc := h c (List.mem_cons_of_mem _ List.mem_cons_self)
    have htail : ∀ d ∈ c :: rest, d.isAlphanum = true := fun d hd => h d (List.mem_cons_of_mem _ hd)
    obtain ⟨hascii, halnum⟩ := isAlphanumeric_of_isAlphanum hc
    have hrecase : recase (some p) (c :: rest) =
        (if c.isUpper && (!p.isUpper || rest.head?.any Char.isLower) then c.toUpper
          else c.toLower) :: recase (some c) rest := by
      rw [recase, if_pos halnum, Option.isNone_some, Bool.false_or, isUpper_of_ascii hascii,
        startsWord_of_alphanum hp fun d hd => htail d (List.mem_cons_of_mem _ hd)]
    rw [hrecase]
    cases i with
    | zero =>
      show (if c.isUpper && (!p.isUpper || rest.head?.any Char.isLower) then c.toUpper
          else c.toLower).isUpper = (c.isUpper && (!p.isUpper || rest[0]?.any Char.isLower))
      rw [← List.head?_eq_getElem?]
      split
      · rename_i hstart
        rw [hstart, Char.isUpper_toUpper_eq_isAlpha, Char.isAlpha,
          (Bool.and_eq_true_iff.mp hstart).1, Bool.true_or]
      · rename_i hstart
        rw [Bool.eq_false_iff.mpr hstart, Char.isUpper_toLower_eq_false]
    | succ i => exact ih htail i

/-- In joined text the pass sets capitals where words start. -/
theorem capitalAt_recase {text : List Char} (h : ∀ c ∈ text, c.isAlphanum = true) (i : Nat) :
    capitalAt (recase none text) i = wordAt text i := by
  cases text with
  | nil => cases i <;> rfl
  | cons c rest =>
    have halnum := (isAlphanumeric_of_isAlphanum (h c List.mem_cons_self)).2
    have hrecase : recase none (c :: rest) = c.toUpper :: recase (some c) rest := by
      rw [recase, if_pos halnum]
      rfl
    rw [hrecase]
    cases i with
    | zero => exact Char.isUpper_toUpper_eq_isAlpha c
    | succ i => exact capitalAt_recase_some h i

/-- The pass raises the first character of any text. -/
theorem capitalAt_recase_zero (text : List Char) :
    capitalAt (recase none text) 0 = letterAt (recase none text) 0 := by
  induction text with
  | nil => rfl
  | cons c rest ih =>
    rw [recase]
    by_cases halnum : isAlphanumeric c = true
    · rw [if_pos halnum]
      show c.toUpper.isUpper = c.toUpper.isAlpha
      rw [Char.isUpper_toUpper_eq_isAlpha, Char.isAlpha_toUpper_eq_isAlpha]
    · rw [if_neg halnum]
      exact ih

end LabelTally.Label
