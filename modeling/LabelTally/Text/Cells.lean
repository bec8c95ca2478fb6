import LabelTally.Text.Property.CellWidth

/-!
# Cells of a terminal line

How many cells a text takes, and the expansion of tabs to stops that are eight cells apart. A joiner
and the character after it take no cells of their own, and a selector for the emoji form widens the
character before it if that has one.
-/

namespace LabelTally.Text

/-- The zero width joiner, which makes one sign of the characters beside it. -/
def joiner : Char := '\u200d'

/-- The selector that asks for the emoji form of the character before it. -/
def emojiSelector : Char := '\ufe0f'

/-- The cells that a character takes alone. Control characters take none. -/
def cellWidth (c : Char) : Nat :=
  let n := c.toNat
  if n < 128 then (if n < 32 || n == 127 then 0 else 1)
  else if n < 160 then 0
  else if zeroWidthRuns.contains n then 0
  else if wideRuns.contains n then 2
  else 1

/-- A character of one cell with an emoji form of two. -/
def isNarrowEmoji (c : Char) : Bool :=
  c == '#' || c == '*' || c.isDigit || narrowEmojiRuns.contains c.toNat

/-- The cells that the rest of a text takes; `last` is the last character that took cells, unless a
selector has followed it. -/
def cellsFrom (last : Option Char) : List Char → Nat
  | [] => 0
  | c :: rest =>
    if c == joiner then
      match rest with
      | [] => 0
      | _ :: rest => cellsFrom last rest
    else if c == emojiSelector then
      (if last.any isNarrowEmoji then 1 else 0) + cellsFrom none rest
    else
      let w := cellWidth c
      w + cellsFrom (if w = 0 then last else some c) rest

/-- The cells that a text takes. -/
def cells (cs : List Char) : Nat := cellsFrom none cs

/-- The distance of tab stops. -/
def tabWidth : Nat := 8

/-- The text with tabs expanded. `part` holds the characters since the last tab, last one first, and
`place` the cells before them. A tab is at least one blank. -/
def expandFrom (place : Nat) (part : List Char) : List Char → List Char
  | [] => part.reverse
  | c :: rest =>
    if c == '\n' then part.reverse ++ c :: expandFrom 0 [] rest
    else if c == '\t' then
      let piece := part.reverse ++ [' ']
      let place := place + cells piece
      let gap := (tabWidth - place % tabWidth) % tabWidth
      piece ++ List.replicate gap ' ' ++ expandFrom (place + gap) [] rest
    else expandFrom place (c :: part) rest

/-- The text with tabs expanded. -/
def expandTabs (cs : List Char) : List Char := expandFrom 0 [] cs

/-- Characters that are not sent to a terminal: bell, backspace, vertical tab, form feed and
carriage return. -/
def isStripped (c : Char) : Bool := [7, 8, 11, 12, 13].contains c.toNat

/-- The text without the characters that are not sent to a terminal. -/
def strip (cs : List Char) : List Char := cs.filter fun c => !isStripped c

end LabelTally.Text
