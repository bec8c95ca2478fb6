import LabelTally.Text.Blank
import LabelTally.Text.Grapheme

/-!
# Wrapped text

A line that is too wide for its place is broken between words. Blanks stay with the word before
them, so the broken lines still concatenate to the whole one, until blanks that do not fit are
dropped at their ends.
-/

namespace LabelTally.Text

/-- The words of a text, each with the blanks after it, and the first one with those before it too;
`fuel` bounds their number. A text of blanks has none. -/
def wordsFrom : (fuel : Nat) → List Char → List (List Char)
  | 0, _ => []
  | fuel + 1, cs =>
    let before := cs.takeWhile isBlank
    let body := (cs.drop before.length).takeWhile fun c => !isBlank c
    let rest := cs.drop (before.length + body.length)
    let after := rest.takeWhile isBlank
    if body.isEmpty then []
    else (before ++ body ++ after) :: wordsFrom fuel (rest.drop after.length)

/-- The words of a text with their blanks. -/
def words (cs : List Char) : List (List Char) := wordsFrom cs.length cs

/-- What becomes of a word that is wider than a whole line. -/
inductive Overflow
  /-- It is broken. -/
  | fold
  /-- It is cut, and a mark shows so. -/
  | ellipsis
  deriving Repr, DecidableEq

/-- Lines under construction. -/
structure Filling where
  /-- The finished lines, last one first. -/
  done : List (List Char) := []
  /-- The open line. -/
  line : List Char := []
  /-- The cells that are taken in it. -/
  used : Nat := 0
  deriving Repr, DecidableEq

/-- Starts a new line with a text, unless nothing stands before it at all. -/
def Filling.break (f : Filling) (text : List Char) (used : Nat) : Filling :=
  if f.done.isEmpty && f.line.isEmpty then { f with line := text, used }
  else { done := f.line :: f.done, line := text, used }

/-- Adds a word: to the open line if it fits there without its last blanks, else to a new one. -/
def Filling.add (overflow : Overflow) (width : Nat) (f : Filling) (word : List Char) : Filling :=
  let size := cells (trimRight word)
  if size + f.used ≤ width then { f with line := f.line ++ word, used := f.used + cells word }
  else if size > width then
    match overflow with
    | .fold => (chop width word).foldl (fun f piece => f.break piece (cells piece)) f
    | .ellipsis => f.break word (cells word)
  else if f.used > 0 then f.break word (cells word)
  else { f with line := f.line ++ word }

/-- The lines of a line that is broken between words. -/
def breakLine (overflow : Overflow) (width : Nat) (cs : List Char) : List (List Char) :=
  match words cs with
  | [] => [cs]
  | ws =>
    let f := ws.foldl (Filling.add overflow width) {}
    (f.line :: f.done).reverse

/-- Drops blanks at the end of a line with more characters than its width, as far as there are too
many. -/
def dropExcess (width : Nat) (cs : List Char) : List Char :=
  let blanks := cs.length - (trimRight cs).length
  cs.take (cs.length - min blanks (cs.length - width))

/-- A line cut to a width. -/
def truncate (overflow : Overflow) (width : Nat) (cs : List Char) : List Char :=
  if cells cs ≤ width then cs
  else
    match overflow with
    | .fold => fitCells width cs
    | .ellipsis => fitCells (width - 1) cs ++ ['…']

/-- A text in lines of at most `width` cells; a line that is too wide is broken between words and,
where a word is too wide for any line, inside it. -/
def wrap (width : Nat) (cs : List Char) : List Char :=
  let lines := (expandTabs cs).splitOn '\n'
  let wrapped := lines.flatMap fun line =>
    (breakLine .fold width line).map fun l => truncate .fold width (dropExcess width l)
  (wrapped.intersperse ['\n']).flatten

/-- The lines of a table cell of a given width, filled up with blanks. -/
def wrapCell (width : Nat) (right : Bool) (cs : List Char) : List (List Char) :=
  (breakLine .ellipsis width (expandTabs cs)).map fun line =>
    let line := dropExcess width line
    let fitted :=
      if right then
        let line := truncate .ellipsis width (trimRight line)
        List.replicate (width - cells line) ' ' ++ line
      else
        let line := truncate .ellipsis width line
        line ++ List.replicate (width - cells line) ' '
    fitCells width fitted

end LabelTally.Text
