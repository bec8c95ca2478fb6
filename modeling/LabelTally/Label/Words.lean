import LabelTally.Text.Casing

/-!
# Words of a label

A label is cut into words at every character that is not alphanumeric, which is dropped, and in
front of a capital that starts a word: one that follows a lowercase letter or a digit, or the last
of a run of capitals when a lowercase letter comes next. Words are lowered.
-/

namespace LabelTally.Label

open Text

/-- A capital starts a word between its neighbours, where there are any. -/
def startsWord (previous next : Option Char) : Bool :=
  previous.any isLower || previous.any isDigit || (previous.any isUpper && next.any isLower)

/-- The word held last character first, if it has a character. -/
def closeWord (current : List Char) : List (List Char) :=
  if current.isEmpty then [] else [current.reverse]

/-- The words of a text, not yet lowered. `current` holds the open word, last character first; its
head is the character before. -/
def splitFrom (current : List Char) : List Char → List (List Char)
  | [] => closeWord current
  | c :: rest =>
    if !isAlphanumeric c then closeWord current ++ splitFrom [] rest
    else if !current.isEmpty && isUpper c && startsWord current.head? rest.head? then
      closeWord current ++ splitFrom [c] rest
    else splitFrom (c :: current) rest

/-- The words of a text, lowered. -/
def splitWords (text : List Char) : List (List Char) := (splitFrom [] text).map lower

end LabelTally.Label
