import LabelTally.Text.Folding
import Mathlib

/-!
# Case of ASCII text

In ASCII text the classes of characters and the case mappings are those of the ASCII letters, and
every character keeps its place when its case changes. Two ASCII texts with the same lowercase form
therefore differ only in the places of their capitals.
-/

namespace LabelTally.Text

/-- The text has only ASCII characters. -/
def IsAsciiText (text : List Char) : Prop := ∀ c ∈ text, isAscii c = true

instance (text : List Char) : Decidable (IsAsciiText text) :=
  decidable_of_iff (text.all isAscii = true) List.all_eq_true

section Classes

variable {c : Char} (h : isAscii c = true)
include h

/-- The letters and digits of ASCII. -/
theorem isAlphanumeric_of_ascii : isAlphanumeric c = c.isAlphanum := by
  rw [isAlphanumeric, classify, if_pos h]

/-- The capitals of ASCII. -/
theorem isUpper_of_ascii : isUpper c = c.isUpper := by
  rw [isUpper, classify, if_pos h]

/-- The small letters of ASCII. -/
theorem isLower_of_ascii : isLower c = c.isLower := by
  rw [isLower, classify, if_pos h]

/-- The digits of ASCII. -/
theorem isDigit_of_ascii : isDigit c = c.isDigit := by
  rw [isDigit, isDecimal, classify, if_pos h, h, Bool.not_true, Bool.false_and, Bool.or_false]

/-- An ASCII character has one capital form. -/
theorem upperChar_of_ascii : upperChar c = [c.toUpper] := by
  rw [upperChar, if_pos h]

/-- An ASCII character has one small form. -/
theorem lowerSimple_of_ascii : lowerSimple c = c.toLower := by
  rw [lowerSimple, if_pos h]

end Classes

/-- The codes of capitals. -/
theorem isUpper_iff_toNat {c : Char} : c.isUpper = true ↔ 65 ≤ c.toNat ∧ c.toNat ≤ 90 := by
  simp [Char.isUpper, UInt32.le_iff_toNat_le, ← Char.toNat_val]

/-- The codes of small letters. -/
theorem isLower_iff_toNat {c : Char} : c.isLower = true ↔ 97 ≤ c.toNat ∧ c.toNat ≤ 122 := by
  simp [Char.isLower, UInt32.le_iff_toNat_le, ← Char.toNat_val]

/-- Letters and digits of ASCII are alphanumeric. -/
theorem isAlphanumeric_of_isAlphanum {c : Char} (h : c.isAlphanum = true) :
    isAscii c = true ∧ isAlphanumeric c = true := by
  have hascii : isAscii c = true := by
    rw [Char.isAlphanum, Char.isAlpha, Bool.or_eq_true, Bool.or_eq_true, isUpper_iff_toNat,
      isLower_iff_toNat, Char.isDigit_iff_toNat] at h
    simp only [Char.reduceToNat] at h
    simp only [isAscii, decide_eq_true_eq]
    omega
  exact ⟨hascii, by rw [isAlphanumeric_of_ascii hascii, h]⟩

/-- Capitals are alphanumeric. -/
theorem isAlphanum_of_isUpper {c : Char} (h : c.isUpper = true) : c.isAlphanum = true := by
  simp [Char.isAlphanum, Char.isAlpha, h]

/-- Small letters are alphanumeric. -/
theorem isAlphanum_of_isLower {c : Char} (h : c.isLower = true) : c.isAlphanum = true := by
  simp [Char.isAlphanum, Char.isAlpha, h]

/-- Digits are alphanumeric. -/
theorem isAlphanum_of_isDigit {c : Char} (h : c.isDigit = true) : c.isAlphanum = true := by
  simp [Char.isAlphanum, h]

/-- A digit is no capital. -/
theorem not_isUpper_of_isDigit {c : Char} (h : c.isDigit = true) : c.isUpper = false := by
  rw [Char.isDigit_iff_toNat] at h
  rw [Bool.eq_false_iff, Ne, isUpper_iff_toNat]
  simp only [Char.reduceToNat] at h
  omega

/-- Small letters and digits are no capitals. -/
theorem not_isUpper_of_small {c : Char} (h : c.isLower = true ∨ c.isDigit = true) :
    c.isUpper = false := by
  rcases h with hlower | hdigit
  · exact Bool.eq_false_iff.mpr (Char.not_isUpper_of_isLower hlower)
  · exact not_isUpper_of_isDigit hdigit

/-- A capital is no digit. -/
theorem not_isDigit_of_isUpper {c : Char} (h : c.isUpper = true) : c.isDigit = false := by
  rw [Bool.eq_false_iff]
  intro hdigit
  rw [not_isUpper_of_isDigit hdigit] at h
  cases h

/-- A digit is no small letter. -/
theorem not_isLower_of_isDigit {c : Char} (h : c.isDigit = true) : c.isLower = false := by
  rw [Char.isDigit_iff_toNat] at h
  rw [Bool.eq_false_iff, Ne, isLower_iff_toNat]
  simp only [Char.reduceToNat] at h
  omega

/-- The code of a small form. -/
theorem toNat_toLower_of_isUpper {c : Char} (h : c.isUpper = true) :
    c.toLower.toNat = c.toNat + 32 := by
  have hcode := isUpper_iff_toNat.mp h
  rw [Char.toLower_eq_of_isUpper h, Char.toNat_ofNat, if_pos (by
    simp only [Nat.isValidChar]
    omega)]

/-- A character is in ASCII exactly if its small form is. -/
@[simp] theorem isAscii_toLower (c : Char) : isAscii c.toLower = isAscii c := by
  cases h : c.isUpper with
  | false => rw [Char.toLower_eq_of_not_isUpper (by simp [h])]
  | true =>
    have hcode := isUpper_iff_toNat.mp h
    simp only [isAscii, toNat_toLower_of_isUpper h]
    rw [decide_eq_true (by omega), decide_eq_true (by omega)]

/-- Lowering keeps digits. -/
@[simp] theorem isDigit_toLower (c : Char) : c.toLower.isDigit = c.isDigit := by
  cases h : c.isUpper with
  | false => rw [Char.toLower_eq_of_not_isUpper (by simp [h])]
  | true =>
    have hcode := isUpper_iff_toNat.mp h
    rw [Bool.eq_iff_iff, Char.isDigit_iff_toNat, Char.isDigit_iff_toNat, toNat_toLower_of_isUpper h]
    simp only [Char.reduceToNat]
    omega

/-- Raising keeps digits. -/
@[simp] theorem isDigit_toUpper (c : Char) : c.toUpper.isDigit = c.isDigit := by
  rw [← isDigit_toLower, Char.toLower_toUpper_eq_toLower, isDigit_toLower]

/-- Lowering keeps letters and digits. -/
@[simp] theorem isAlphanum_toLower (c : Char) : c.toLower.isAlphanum = c.isAlphanum := by
  simp [Char.isAlphanum]

/-- Raising keeps letters and digits. -/
@[simp] theorem isAlphanum_toUpper (c : Char) : c.toUpper.isAlphanum = c.isAlphanum := by
  simp [Char.isAlphanum]

/-- A capital is its own raised form. -/
theorem toUpper_eq_self {c : Char} (h : c.isLower = false) : c.toUpper = c :=
  Char.toUpper_eq_of_not_isLower (by simp [h])

/-- A character that is no capital is its own small form. -/
theorem toLower_eq_self {c : Char} (h : c.isUpper = false) : c.toLower = c :=
  Char.toLower_eq_of_not_isUpper (by simp [h])

/-- A character is known by its small form and whether it is a capital. -/
theorem eq_of_toLower_eq {a b : Char} (hlower : a.toLower = b.toLower)
    (hupper : a.isUpper = b.isUpper) : a = b := by
  cases ha : a.isUpper with
  | false => rw [← toLower_eq_self ha, hlower, toLower_eq_self (hupper ▸ ha)]
  | true =>
    have hraise : ∀ c : Char, c.isUpper = true → c.toLower.toUpper = c := by
      intro c hc
      rw [Char.toUpper_toLower_eq_toUpper,
        toUpper_eq_self (Bool.eq_false_iff.mpr (Char.not_isLower_of_isUpper hc))]
    rw [← hraise a ha, hlower, hraise b (hupper ▸ ha)]

/-- A text in small ASCII letters. -/
def lowered (text : List Char) : List Char := text.map Char.toLower

/-- A lowered text is its own small form. -/
theorem lowered_lowered (text : List Char) : lowered (lowered text) = lowered text := by
  simp [lowered]

/-- Texts with the same small form are in ASCII together. -/
theorem IsAsciiText.of_lowered_eq {text other : List Char} (h : IsAsciiText text)
    (heq : lowered other = lowered text) : IsAsciiText other := by
  intro c hc
  have hmem : c.toLower ∈ lowered text := heq ▸ List.mem_map_of_mem hc
  obtain ⟨d, hd, he⟩ := List.mem_map.mp hmem
  rw [← isAscii_toLower, ← he, isAscii_toLower, h d hd]

/-- Without capital sigma and dotted capital `I` lowering goes character by character. -/
theorem lowerFrom_of_ascii {text : List Char} (h : IsAsciiText text) (before : List Char) :
    lowerFrom before text = lowered text := by
  induction text generalizing before with
  | nil => rfl
  | cons c rest ih =>
    have hc := h c List.mem_cons_self
    have hother : ∀ d : Char, isAscii d = false → (c == d) = false := by
      intro d hd
      rw [beq_eq_false_iff_ne]
      rintro rfl
      rw [hc] at hd
      cases hd
    rw [lowerFrom, hother 'Σ' (by decide), if_neg (by simp), lowerChar, hother 'İ' (by decide),
      if_neg (by simp), lowerSimple_of_ascii hc, ih fun d hd => h d (List.mem_cons_of_mem _ hd)]
    rfl

/-- ASCII text is lowered character by character. -/
theorem lower_of_ascii {text : List Char} (h : IsAsciiText text) : lower text = lowered text :=
  lowerFrom_of_ascii h []

/-- ASCII text is raised character by character. -/
theorem upper_of_ascii {text : List Char} (h : IsAsciiText text) :
    upper text = text.map Char.toUpper := by
  unfold upper
  induction text with
  | nil => rfl
  | cons c rest ih =>
    rw [List.flatMap_cons, upperChar_of_ascii (h c List.mem_cons_self),
      ih fun d hd => h d (List.mem_cons_of_mem _ hd), List.map_cons, List.singleton_append]

/-- Capitalizing ASCII text raises its first character. -/
theorem capitalize_of_ascii {c : Char} (h : isAscii c = true) (rest : List Char) :
    capitalize (c :: rest) = c.toUpper :: rest := by
  rw [capitalize, upperChar_of_ascii h, List.singleton_append]

/-- A capital stands at a place of the text. -/
def capitalAt (text : List Char) (i : Nat) : Bool := text[i]?.any Char.isUpper

/-- A lowered text has no capitals. -/
theorem capitalAt_lowered (text : List Char) (i : Nat) : capitalAt (lowered text) i = false := by
  simp only [capitalAt, lowered, List.getElem?_map]
  cases text[i]? <;> simp

/-- Texts with the same small form and the same places of capitals are equal. -/
theorem eq_of_capitalAt {text other : List Char} (hlower : lowered text = lowered other)
    (hcapital : ∀ i, capitalAt text i = capitalAt other i) : text = other := by
  refine List.ext_getElem? fun i => ?_
  have hi := congrArg (·[i]?) hlower
  have hcap := hcapital i
  simp only [lowered, List.getElem?_map] at hi
  unfold capitalAt at hcap
  cases ha : text[i]? with
  | none =>
    rw [ha, Option.map_none, eq_comm, Option.map_eq_none_iff] at hi
    exact hi.symm
  | some a =>
    cases hb : other[i]? with
    | none => rw [ha, hb] at hi; cases hi
    | some b =>
      rw [ha, hb, Option.map_some, Option.map_some] at hi
      rw [ha, hb, Option.any_some, Option.any_some] at hcap
      rw [eq_of_toLower_eq (Option.some.inj hi) hcap]

end LabelTally.Text
