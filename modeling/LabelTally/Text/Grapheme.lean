import LabelTally.Text.Cells

/-!
# Signs of a text

The characters that a terminal shows as one sign: a character with the marks after it, and whatever
a joiner ties to it. A text is cut only between signs.
-/

namespace LabelTally.Text

/-- The characters of a sign, and the cells it takes. -/
structure Grapheme where
  /-- The characters. -/
  chars : List Char
  /-- The cells. -/
  width : Nat
  deriving Repr, DecidableEq

/-- The signs of the rest of a text. `done` holds those before it, last one first, and `last` the
last character that took cells, unless a selector has widened it. -/
def graphemesFrom (done : List Grapheme) (last : Option Char) : List Char → List Grapheme
  | [] => done.reverse
  | c :: rest =>
    let w := if c == joiner || c == emojiSelector then 0 else cellWidth c
    match done with
    | [] => graphemesFrom [⟨[c], w⟩] (if w = 0 then last else some c) rest
    | sign :: before =>
      if w ≠ 0 then graphemesFrom (⟨[c], w⟩ :: done) (some c) rest
      else if c == joiner then
        match rest with
        | [] => ({ sign with chars := sign.chars ++ [c] } :: before).reverse
        | d :: rest =>
          graphemesFrom ({ sign with chars := sign.chars ++ [c, d] } :: before) last rest
      else
        let widens := c == emojiSelector && last.any isNarrowEmoji
        let sign := ⟨sign.chars ++ [c], sign.width + if widens then 1 else 0⟩
        graphemesFrom (sign :: before) (if widens then none else last) rest

/-- The signs of a text. -/
def graphemes (cs : List Char) : List Grapheme := graphemesFrom [] none cs

/-- As many signs as fit into some cells. A sign that does not fit as a whole leaves a blank in its
place. -/
def takeCells (room : Nat) : List Grapheme → List Char
  | [] => []
  | sign :: rest =>
    if room = 0 then []
    else if sign.width > room then [' ']
    else sign.chars ++ takeCells (room - sign.width) rest

/-- The text filled up or cut to a number of cells. -/
def fitCells (total : Nat) (cs : List Char) : List Char :=
  let size := cells cs
  if size ≤ total then cs ++ List.replicate (total - size) ' '
  else takeCells total (graphemes cs)

/-- The signs of a text in pieces of at most `width` cells. `piece` is the open one and `used` the
cells it takes. -/
def chopFrom (width : Nat) (piece : List Char) (used : Nat) : List Grapheme → List (List Char)
  | [] => if used = 0 then [] else [piece]
  | sign :: rest =>
    if used + sign.width > width then piece :: chopFrom width sign.chars sign.width rest
    else chopFrom width (piece ++ sign.chars) (used + sign.width) rest

/-- The text in pieces of at most `width` cells. -/
def chop (width : Nat) (cs : List Char) : List (List Char) := chopFrom width [] 0 (graphemes cs)

end LabelTally.Text
