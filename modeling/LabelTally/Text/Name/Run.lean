/-!
# Runs of names

Characters that follow each other often have names with the same start. A run lists what is added to
that start, with commas in between.
-/

namespace LabelTally.Text

/-- The names of characters that follow each other. -/
structure NameRun where
  /-- The code of the first character. -/
  first : Nat
  /-- How all the names start. -/
  stem : String
  /-- What comes after the start, character by character, in lines with commas between names. -/
  lines : List String
  deriving Repr, DecidableEq

/-- The code of the character with a name in capitals. -/
def NameRun.codeOf? (r : NameRun) (name : List Char) : Option Nat :=
  if r.stem.toList.isPrefixOf name then
    let rest := String.ofList (name.drop r.stem.length)
    ((r.lines.flatMap fun line => line.splitOn ",").findIdx? (· == rest)).map (r.first + ·)
  else none

end LabelTally.Text
