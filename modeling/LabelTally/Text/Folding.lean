import LabelTally.Text.Casing

/-!
# Comparison without case

Two characters agree without case when their single-character lowercase forms are equal or share an
uppercase form. No character is compared with a sequence of several.
-/

namespace LabelTally.Text

/-- Lowercase characters that have one uppercase form in common, class by class. -/
def sharedUppercase : List (List Nat) :=
  [[0x69, 0x131], [0x73, 0x17f], [0xb5, 0x3bc], [0x345, 0x3b9, 0x1fbe], [0x390, 0x1fd3],
   [0x3b0, 0x1fe3], [0x3b2, 0x3d0], [0x3b5, 0x3f5], [0x3b8, 0x3d1], [0x3ba, 0x3f0],
   [0x3c0, 0x3d6], [0x3c1, 0x3f1], [0x3c2, 0x3c3], [0x3c6, 0x3d5], [0x432, 0x1c80],
   [0x434, 0x1c81], [0x43e, 0x1c82], [0x441, 0x1c83], [0x442, 0x1c84, 0x1c85], [0x44a, 0x1c86],
   [0x463, 0x1c87], [0x1c88, 0xa64b], [0x1e61, 0x1e9b], [0xfb05, 0xfb06]]

/-- Equality of two characters without case. -/
def sameLetter (a b : Char) : Bool :=
  let x := (lowerSimple a).toNat
  let y := (lowerSimple b).toNat
  x == y || sharedUppercase.any fun letters => letters.contains x && letters.contains y

/-- The rest of a text after a word that it starts with, compared without case. -/
def dropWordIgnoringCase : (word text : List Char) → Option (List Char)
  | [], text => some text
  | _ :: _, [] => none
  | w :: word, c :: text => if sameLetter w c then dropWordIgnoringCase word text else none

end LabelTally.Text
