import LabelTally.Proofs.Label.Separated

/-!
# Forms of words

Words of the separated styles are lowered, raised or capitalized. Which words a form leaves as they
are is said character by character: lowered and capitalized words are never cut again, a raised word
is cut where a capital follows a digit.
-/

namespace LabelTally.Label

open Text

/-- The small form of a word. -/
theorem IsAsciiWord.lower_eq {word : List Char} (h : IsAsciiWord word) :
    lower word = lowered word :=
  lower_of_ascii h.isAsciiText

/-- The small form of a word is a word. -/
theorem IsAsciiWord.lowered {word : List Char} (h : IsAsciiWord word) :
    IsAsciiWord (lowered word) :=
  h.map isAlphanum_toLower

/-- Raising a lowered word raises the word. -/
theorem IsAsciiWord.upper_lower {word : List Char} (h : IsAsciiWord word) :
    upper (lower word) = word.map Char.toUpper := by
  rw [h.lower_eq, upper_of_ascii h.lowered.isAsciiText, Text.lowered, List.map_map]
  exact List.map_congr_left fun c _ => Char.toUpper_toLower_eq_toUpper c

/-- Capitalizing a lowered word raises its first character and lowers the others. -/
theorem IsAsciiWord.capitalize_lower {c : Char} {rest : List Char} (h : IsAsciiWord (c :: rest)) :
    capitalize (lower (c :: rest)) = c.toUpper :: Text.lowered rest := by
  have hc : isAscii c.toLower = true := by
    rw [isAscii_toLower]
    exact h.isAsciiText c List.mem_cons_self
  rw [h.lower_eq, Text.lowered, List.map_cons, capitalize_of_ascii hc,
    Char.toUpper_toLower_eq_toUpper]
  rfl

/-- Lowered words are words. -/
theorem keepsWords_id : KeepsWords id := fun word h => by
  rw [id, h.lower_eq]
  exact h.lowered

/-- Raised words are words. -/
theorem keepsWords_upper : KeepsWords upper := fun word h => by
  rw [h.upper_lower]
  exact h.map isAlphanum_toUpper

/-- Capitalized words are words. -/
theorem keepsWords_capitalize : KeepsWords capitalize := fun word h => by
  cases word with
  | nil => exact absurd rfl h.1
  | cons c rest =>
    rw [h.capitalize_lower]
    refine ⟨by simp, fun d hd => ?_⟩
    rcases List.mem_cons.mp hd with rfl | hd
    · rw [isAlphanum_toUpper, h.2 c List.mem_cons_self]
    · obtain ⟨e, he, rfl⟩ := List.mem_map.mp hd
      rw [isAlphanum_toLower, h.2 e (List.mem_cons_of_mem _ he)]

/-- A letter or digit that is its own small form is no capital. -/
theorem toLower_eq_iff {c : Char} (h : c.isAlphanum = true) :
    c.toLower = c ↔ c.isLower = true ∨ c.isDigit = true := by
  rw [Char.isAlphanum, Char.isAlpha, Bool.or_eq_true, Bool.or_eq_true] at h
  constructor
  · intro hself
    have hupper : c.isUpper = false := by rw [← hself, Char.isUpper_toLower_eq_false]
    simpa [hupper] using h
  · rintro (hlower | hdigit)
    · exact toLower_eq_self (Bool.eq_false_iff.mpr (Char.not_isUpper_of_isLower hlower))
    · exact toLower_eq_self (not_isUpper_of_isDigit hdigit)

/-- A letter or digit that is its own raised form is no small letter. -/
theorem toUpper_eq_iff {c : Char} (h : c.isAlphanum = true) :
    c.toUpper = c ↔ c.isUpper = true ∨ c.isDigit = true := by
  rw [Char.isAlphanum, Char.isAlpha, Bool.or_eq_true, Bool.or_eq_true] at h
  constructor
  · intro hself
    have hlower : c.isLower = false := by rw [← hself, Char.isLower_toUpper_eq_false]
    simpa [hlower] using h
  · rintro (hupper | hdigit)
    · exact toUpper_eq_self (Bool.eq_false_iff.mpr (Char.not_isLower_of_isUpper hupper))
    · exact toUpper_eq_self (not_isLower_of_isDigit hdigit)

/-- A text is unchanged by a mapping exactly if each character is. -/
theorem map_eq_self_iff {f : Char → Char} {text : List Char} :
    text.map f = text ↔ ∀ c ∈ text, f c = c := by
  conv => lhs; rhs; rw [← List.map_id text]
  exact List.map_eq_map_iff

/-- A small letter or digit starts no word. -/
theorem isUpper_eq_false {c : Char} (h : c.isLower = true ∨ c.isDigit = true) :
    isAlphanumeric c = true ∧ isUpper c = false := by
  have halnum : c.isAlphanum = true := h.elim isAlphanum_of_isLower isAlphanum_of_isDigit
  obtain ⟨hascii, hword⟩ := isAlphanumeric_of_isAlphanum halnum
  refine ⟨hword, ?_⟩
  rw [isUpper_of_ascii hascii]
  exact not_isUpper_of_small h

/-- A lowered style keeps exactly the words of small letters and digits. -/
theorem isFixed_id_iff {word : List Char} (h : IsAsciiWord word) :
    IsFixed id word ↔ ∀ c ∈ word, c.isLower = true ∨ c.isDigit = true := by
  have hform : id (lower word) = word ↔ ∀ c ∈ word, c.isLower = true ∨ c.isDigit = true := by
    rw [id, h.lower_eq, lowered, map_eq_self_iff]
    exact forall₂_congr fun c hc => toLower_eq_iff (h.2 c hc)
  refine ⟨fun hfixed => hform.mp hfixed.2, fun hchars => ⟨?_, hform.mpr hchars⟩⟩
  cases word with
  | nil => exact absurd rfl h.1
  | cons c rest =>
    refine (isWhole_cons_iff c rest).mpr ⟨(isUpper_eq_false (hchars c List.mem_cons_self)).1, ?_⟩
    exact unbroken_of_no_upper (fun d hd => isUpper_eq_false
      (hchars d (List.mem_cons_of_mem _ hd))) c

/-- A capitalized style keeps exactly the words of a capital or digit and then small letters and
digits. -/
theorem isFixed_capitalize_iff {c : Char} {rest : List Char} (h : IsAsciiWord (c :: rest)) :
    IsFixed capitalize (c :: rest) ↔
      (c.isUpper = true ∨ c.isDigit = true) ∧
        ∀ d ∈ rest, d.isLower = true ∨ d.isDigit = true := by
  have hform : capitalize (lower (c :: rest)) = c :: rest ↔
      (c.isUpper = true ∨ c.isDigit = true) ∧
        ∀ d ∈ rest, d.isLower = true ∨ d.isDigit = true := by
    rw [h.capitalize_lower, List.cons.injEq, toUpper_eq_iff (h.2 c List.mem_cons_self), lowered,
      map_eq_self_iff]
    exact and_congr_right' (forall₂_congr fun d hd => toLower_eq_iff
      (h.2 d (List.mem_cons_of_mem _ hd)))
  refine ⟨fun hfixed => hform.mp hfixed.2, fun hchars => ⟨?_, hform.mpr hchars⟩⟩
  refine (isWhole_cons_iff c rest).mpr
    ⟨(isAlphanumeric_of_isAlphanum (h.2 c List.mem_cons_self)).2, ?_⟩
  exact unbroken_of_no_upper (fun d hd => isUpper_eq_false (hchars.2 d hd)) c

/-- No capital follows a digit. -/
def NoCapitalAfterDigit (a b : Char) : Prop := ¬(a.isDigit = true ∧ b.isUpper = true)

/-- Among capitals and digits a word starts only after a digit. -/
theorem unbroken_iff_isChain {p : Char} {rest : List Char}
    (h : ∀ c ∈ p :: rest, c.isUpper = true ∨ c.isDigit = true) :
    Unbroken p rest ↔ (p :: rest).IsChain NoCapitalAfterDigit := by
  have hclass : ∀ c ∈ p :: rest,
      isAscii c = true ∧ isAlphanumeric c = true ∧ c.isLower = false := by
    intro c hc
    have halnum : c.isAlphanum = true := (h c hc).elim isAlphanum_of_isUpper isAlphanum_of_isDigit
    obtain ⟨hascii, hword⟩ := isAlphanumeric_of_isAlphanum halnum
    refine ⟨hascii, hword, ?_⟩
    rcases h c hc with hupper | hdigit
    · exact Bool.eq_false_iff.mpr (Char.not_isLower_of_isUpper hupper)
    · exact not_isLower_of_isDigit hdigit
  induction rest generalizing p with
  | nil => simp [Unbroken]
  | cons c rest ih =>
    have hp := hclass p List.mem_cons_self
    have hc := hclass c (List.mem_cons_of_mem _ List.mem_cons_self)
    have htail : ∀ d ∈ c :: rest, d ∈ p :: c :: rest := fun d hd => List.mem_cons_of_mem _ hd
    have hnext : rest.head?.any isLower = false := by
      cases rest with
      | nil => rfl
      | cons d rest =>
        have hd := hclass d (by simp)
        rw [List.head?_cons, Option.any_some, isLower_of_ascii hd.1, hd.2.2]
    have hstart : startsWord (some p) rest.head? = p.isDigit := by
      rw [startsWord, hnext, Option.any_some, Option.any_some, isLower_of_ascii hp.1, hp.2.2,
        isDigit_of_ascii hp.1, Bool.and_false, Bool.or_false, Bool.false_or]
    have hrest : Unbroken c rest ↔ (c :: rest).IsChain NoCapitalAfterDigit :=
      ih (fun d hd => h d (htail d hd)) fun d hd => hclass d (htail d hd)
    rw [Unbroken, List.isChain_cons_cons, hrest, hstart, isUpper_of_ascii hc.1,
      NoCapitalAfterDigit, and_comm (a := c.isUpper = true)]
    exact and_iff_right hc.2.1

/-- A raised style keeps exactly the words of capitals and digits in which no capital follows a
digit. -/
theorem isFixed_upper_iff {word : List Char} (h : IsAsciiWord word) :
    IsFixed upper word ↔
      (∀ c ∈ word, c.isUpper = true ∨ c.isDigit = true) ∧ word.IsChain NoCapitalAfterDigit := by
  have hform : upper (lower word) = word ↔ ∀ c ∈ word, c.isUpper = true ∨ c.isDigit = true := by
    rw [h.upper_lower, map_eq_self_iff]
    exact forall₂_congr fun c hc => toUpper_eq_iff (h.2 c hc)
  rw [IsFixed, hform, and_comm]
  refine and_congr_right fun hchars => ?_
  cases word with
  | nil => exact absurd rfl h.1
  | cons c rest =>
    rw [isWhole_cons_iff, unbroken_iff_isChain hchars]
    exact and_iff_right (isAlphanumeric_of_isAlphanum (h.2 c List.mem_cons_self)).2

end LabelTally.Label
