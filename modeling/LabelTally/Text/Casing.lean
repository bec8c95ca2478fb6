import LabelTally.Text.Letter
import LabelTally.Text.Property.CaseMapping

/-!
# Full case mappings

Upper and lower casing of texts. One character may become several, and a capital sigma is lowered
to its final form at the end of a word. Comparison without case uses single-character mappings only
and is in `LabelTally.Text.Folding`.
-/

namespace LabelTally.Text

/-- Uppercase form of one character. -/
def upperChar (c : Char) : List Char :=
  if isAscii c then [c.toUpper]
  else match upperExpansions.lookup c.toNat with
    | some codes => codes.map Char.ofNat
    | none => [((shift? upperShifts c.toNat).map Char.ofNat).getD c]

/-- Lowercase form of one character, as a single character. -/
def lowerSimple (c : Char) : Char :=
  if isAscii c then c.toLower
  else if c == 'İ' then 'i'
  else ((shift? lowerShifts c.toNat).map Char.ofNat).getD c

/-- Lowercase form of one character without regard to its neighbours. -/
def lowerChar (c : Char) : List Char :=
  if c == 'İ' then ['i', '\u0307'] else [lowerSimple c]

/-- The first character that case rules do not look through has a letter case. -/
def nextIsCased (cs : List Char) : Bool :=
  match cs.dropWhile isCaseIgnorable with
  | [] => false
  | c :: _ => isCased c

/-- Lowercase form of a text, `before` being the characters already passed, nearest first. A capital
sigma that ends a word, looking through ignorable characters on both sides, becomes a final one. -/
def lowerFrom (before : List Char) : List Char → List Char
  | [] => []
  | c :: rest =>
    (if c == 'Σ' then [if nextIsCased before && !nextIsCased rest then 'ς' else 'σ']
     else lowerChar c) ++ lowerFrom (c :: before) rest

/-- Lowercase form of a text. -/
def lower (cs : List Char) : List Char := lowerFrom [] cs

/-- Uppercase form of a text. -/
def upper (cs : List Char) : List Char := cs.flatMap upperChar

/-- The text with its first character in upper case and the others as they are. -/
def capitalize : List Char → List Char
  | [] => []
  | c :: rest => upperChar c ++ rest

end LabelTally.Text
