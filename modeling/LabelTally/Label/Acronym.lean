import LabelTally.Text.Folding

/-!
# Acronyms

Every occurrence of an acronym in a text is raised to upper case, whatever its case and wherever it
stands, also across words. Acronyms are applied in code point order, each once, and each to the text
that the one before left.
-/

namespace LabelTally.Label

open Text

/-- Code point order of texts. -/
def textLess (a b : List Char) : Bool := decide (a < b)

/-- Distinct texts in code point order. -/
def sortTexts (texts : List (List Char)) : List (List Char) :=
  texts.eraseDups.mergeSort fun a b => !textLess b a

/-- Raises every occurrence of a word, from left to right and without overlap; `skip` characters are
still part of the last one. -/
def raiseFrom (word : List Char) : (skip : Nat) → List Char → List Char
  | _, [] => []
  | skip + 1, c :: rest => upperChar c ++ raiseFrom word skip rest
  | 0, c :: rest =>
    if (dropWordIgnoringCase word (c :: rest)).isSome then
      upperChar c ++ raiseFrom word (word.length - 1) rest
    else c :: raiseFrom word 0 rest

/-- Raises every occurrence of an acronym; the empty one changes nothing. -/
def raise (acronym text : List Char) : List Char :=
  if acronym.isEmpty then text else raiseFrom acronym 0 text

/-- Raises every occurrence of every acronym. -/
def raiseAll (acronyms : List (List Char)) (text : List Char) : List Char :=
  (sortTexts acronyms).foldl (fun t a => raise a t) text

end LabelTally.Label
