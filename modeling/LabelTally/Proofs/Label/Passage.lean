import LabelTally.Proofs.Label.WordForms

/-!
# Passing through a separated style

A style makes its text from the words of a text and from nothing else. In `snake_case`, `kebab-case`
and `Train-Case` the words of ASCII text stand between marks, with no capital behind their first
character, so that they are read back one by one. A text that has gone through one of these styles
is therefore converted like the text itself.
-/

namespace LabelTally.Label

open Text

/-- A conversion depends on the words of the text only. -/
theorem convert_congr {text other : List Char} (h : splitWords text = splitWords other)
    (style : Style) (rule : AcronymRule) : convert style rule text = convert style rule other := by
  cases style <;> simp only [convert, joinTwice, h]

/-- A text in a separated style has the words that it was made from, if each of them is read back
from its form. -/
theorem splitWords_separate {mark : Char} (hmark : IsMark mark) {form : List Char → List Char}
    {text : List Char} (h : ∀ word ∈ splitWords text, splitWords (form word) = [word]) :
    splitWords (separate mark form text) = splitWords text := by
  rw [separate, splitWords_joinWith hmark, List.flatMap_map, List.flatMap_congr h,
    List.flatMap_singleton']

section Forms

variable {word : List Char} (h : IsSmallWord word)
include h

/-- A small word is its own small form. -/
theorem IsSmallWord.lower_eq : lower word = word := by
  rw [h.isAsciiWord.lower_eq, h.lowered_eq]

/-- A small word is read back. -/
theorem IsSmallWord.splitWords_eq : splitWords word = [word] := by
  have hfixed := ((isFixed_id_iff_isSmallWord word).mpr h).2
  rw [splitWords, hfixed.1, List.map_singleton, h.lower_eq]

/-- Capitalizing a small word gives a capitalized one. -/
theorem IsSmallWord.isCapitalWord_capitalize : IsCapitalWord (capitalize word) := by
  obtain ⟨hne, hchars⟩ := h
  cases word with
  | nil => exact absurd rfl hne
  | cons c rest =>
    obtain ⟨hc, hrest⟩ := List.forall_mem_cons.mp hchars
    have halnum : c.isAlphanum = true := hc.elim isAlphanum_of_isLower isAlphanum_of_isDigit
    refine ⟨c.toUpper, rest, capitalize_of_ascii (isAlphanumeric_of_isAlphanum halnum).1 rest, ?_,
      hrest⟩
    rw [Char.isUpper_toUpper_eq_isAlpha, isDigit_toUpper]
    exact hc.imp_left fun hlower => by simp [Char.isAlpha, hlower]

/-- A small word is read back from its capitalized form. -/
theorem IsSmallWord.splitWords_capitalize : splitWords (capitalize word) = [word] := by
  have hcapital := (isFixed_capitalize_iff_isCapitalWord _).mpr h.isCapitalWord_capitalize
  have hlower : lower (capitalize word) = word := by
    rw [hcapital.1.lower_eq]
    exact h.lowered_wordForm []
  rw [splitWords, hcapital.2.1, List.map_singleton, hlower]

end Forms

/-- ASCII text that goes through `snake_case`, `kebab-case` or `Train-Case` keeps its words, and is
then converted to any style like the text itself. -/
theorem convert_convert_of_separated {first : Style}
    (hfirst : first = .snake ∨ first = .kebab ∨ first = .train) {text : List Char}
    (h : IsAsciiText text) (firstRule : AcronymRule) :
    splitWords (convert first firstRule text) = splitWords text ∧
      ∀ style rule,
        convert style rule (convert first firstRule text) = convert style rule text := by
  have hsmall : ∀ word ∈ splitWords text, IsSmallWord word := fun word hword =>
    isSmallWord_of_mem_splitWords h hword
  have hwords : splitWords (convert first firstRule text) = splitWords text := by
    rcases hfirst with rfl | rfl | rfl
    · rw [convert, ← separate_id]
      exact splitWords_separate isMark_lowLine fun word hword => (hsmall word hword).splitWords_eq
    · rw [convert, ← separate_id]
      exact splitWords_separate isMark_hyphen fun word hword => (hsmall word hword).splitWords_eq
    · exact splitWords_separate isMark_hyphen fun word hword =>
        (hsmall word hword).splitWords_capitalize
  exact ⟨hwords, fun style rule => convert_congr hwords style rule⟩

/-- Runs of capitals, digits and one-letter words on the way through `Train-Case` to `camelCase`. -/
theorem convert_convert_mixed_words :
    IsAsciiText "HTTPServer2Go_a-b1C".toList ∧
      convert .train {} "HTTPServer2Go_a-b1C".toList = "Http-Server2-Go-A-B1-C".toList ∧
      convert .camel ⟨["go".toList], true⟩ "Http-Server2-Go-A-B1-C".toList =
        convert .camel ⟨["go".toList], true⟩ "HTTPServer2Go_a-b1C".toList := by
  have hascii : IsAsciiText "HTTPServer2Go_a-b1C".toList := by decide
  have htrain : convert .train {} "HTTPServer2Go_a-b1C".toList =
      "Http-Server2-Go-A-B1-C".toList := by decide
  refine ⟨hascii, htrain, ?_⟩
  rw [← htrain]
  exact (convert_convert_of_separated (.inr (.inr rfl)) hascii {}).2 .camel _

end LabelTally.Label
