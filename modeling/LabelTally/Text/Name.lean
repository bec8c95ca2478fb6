import LabelTally.Text.Name.Alphabet
import LabelTally.Text.Name.Ancient
import LabelTally.Text.Name.Brahmic
import LabelTally.Text.Name.Cuneiform
import LabelTally.Text.Name.EastOfIndia
import LabelTally.Text.Name.Gesture
import LabelTally.Text.Name.Hieroglyph
import LabelTally.Text.Name.Ideograph
import LabelTally.Text.Name.India
import LabelTally.Text.Name.Kana
import LabelTally.Text.Name.Modern
import LabelTally.Text.Name.Music
import LabelTally.Text.Name.NearEast
import LabelTally.Text.Name.OldKana
import LabelTally.Text.Name.Ornament
import LabelTally.Text.Name.Other
import LabelTally.Text.Name.Phonetic
import LabelTally.Text.Name.Picture
import LabelTally.Text.Name.Presentation
import LabelTally.Text.Name.Sign
import LabelTally.Text.Name.Syllable
import LabelTally.Text.Property.CharSet

/-!
# Characters by name

The character that a name stands for. Names are listed in capitals and found without regard to case,
except that the names of Hangul syllables and of unified ideographs follow rules and are always
written in capitals.
-/

namespace LabelTally.Text

/-- The runs of all names that are listed. -/
def nameRuns : List NameRun :=
  alphabetNames ++ nearEastNames ++ indiaNames ++ eastOfIndiaNames ++ phoneticNames ++ signNames
    ++ ornamentNames ++ kanaNames ++ syllableNames ++ presentationNames ++ ancientNames ++
    brahmicNames ++ cuneiformNames ++ hieroglyphNames ++ ideographNames ++ oldKanaNames ++
    musicNames ++ gestureNames ++ modernNames ++ pictureNames ++ otherNames

/-- Compatibility ideographs, whose names end in their codes. -/
def compatibilityRuns : CharSet := [⟨0xf900, 0xfa6d, 1⟩, ⟨0xfa70, 0xfad9, 1⟩, ⟨0x2f800, 0x2fa1d, 1⟩]

/-- Unified ideographs, whose names end in their codes. -/
def unifiedRuns : CharSet :=
  [⟨0x3400, 0x4dbf, 1⟩, ⟨0x4e00, 0x9fff, 1⟩, ⟨0x20000, 0x2a6df, 1⟩, ⟨0x2a700, 0x2b738, 1⟩,
   ⟨0x2b740, 0x2b81d, 1⟩, ⟨0x2b820, 0x2cea1, 1⟩, ⟨0x2ceb0, 0x2ebe0, 1⟩, ⟨0x30000, 0x3134a, 1⟩]

/-- The value of a digit of base sixteen in capitals. -/
def capitalHex? (c : Char) : Option Nat :=
  if c.isDigit then some (c.toNat - 48)
  else if 'A' ≤ c && c ≤ 'F' then some (c.toNat - 55)
  else none

/-- The code that some digits of base sixteen in capitals give, if there are four or five. -/
def codeOfHex? (cs : List Char) : Option Nat :=
  if cs.length = 4 || cs.length = 5 then
    (cs.mapM capitalHex?).map fun ds => ds.foldl (fun n d => n * 16 + d) 0
  else none

/-- What a text adds to a given start. -/
def after? (start cs : List Char) : Option (List Char) :=
  if start.isPrefixOf cs then some (cs.drop start.length) else none

/-- The letters with which a Hangul syllable can begin, and their order. -/
def hangulInitials : List String :=
  ["G", "GG", "N", "D", "DD", "R", "M", "B", "BB", "S", "SS", "", "J", "JJ", "C", "K", "T", "P",
   "H"]

/-- The vowels of Hangul syllables in their order. -/
def hangulVowels : List String :=
  ["A", "AE", "YA", "YAE", "EO", "E", "YEO", "YE", "O", "WA", "WAE", "OE", "YO", "U", "WEO", "WE",
   "WI", "YU", "EU", "YI", "I"]

/-- The letters with which a Hangul syllable can end, and their order. -/
def hangulFinals : List String :=
  ["", "G", "GG", "GS", "N", "NJ", "NH", "D", "L", "LG", "LM", "LB", "LS", "LT", "LP", "LH", "M",
   "B", "BS", "S", "SS", "NG", "J", "C", "K", "T", "P", "H"]

/-- The longest of some letters at the start of a text: its place among them, and what follows it.
-/
def takeLongest? (letters : List String) (cs : List Char) : Option (Nat × List Char) :=
  let fitting := (letters.zipIdx).filter fun l => l.1.toList.isPrefixOf cs
  match fitting.mergeSort fun a b => decide (b.1.length ≤ a.1.length) with
  | [] => none
  | (letter, i) :: _ => some (i, cs.drop letter.length)

/-- The Hangul syllable of three letters. -/
def hangulSyllable? (cs : List Char) : Option Nat := do
  let (i, cs) ← takeLongest? hangulInitials cs
  let (v, cs) ← takeLongest? hangulVowels cs
  let (f, cs) ← takeLongest? hangulFinals cs
  if cs.isEmpty then
    some (0xac00 + (i * hangulVowels.length + v) * hangulFinals.length + f)
  else none

/-- The code of the character with a name in capitals, among those that are listed. -/
def listedCode? (name : List Char) : Option Nat :=
  match after? "CJK COMPATIBILITY IDEOGRAPH-".toList name with
  | some digits =>
    (codeOfHex? digits).filter fun code =>
      compatibilityRuns.contains code && (digits.length = 4) == (code < 0x10000)
  | none => nameRuns.findSome? fun r => r.codeOf? name

/-- The code of the character with a name. -/
def codeOfName? (name : List Char) : Option Nat :=
  match after? "HANGUL SYLLABLE ".toList name with
  | some letters => hangulSyllable? letters
  | none =>
    match after? "CJK UNIFIED IDEOGRAPH-".toList name with
    | some digits => (codeOfHex? digits).filter unifiedRuns.contains
    | none => listedCode? (name.map Char.toUpper)

end LabelTally.Text
