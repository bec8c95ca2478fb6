import LabelTally.Text.Cells

/-!
# Styled text

Text with stretches in a style. What is appended first loses the characters that a terminal would
act on.
-/

namespace LabelTally.Report

/-- A style of a stretch of text. -/
inductive Look
  /-- Bold red. -/
  | boldRed
  /-- Bold cyan. -/
  | boldCyan
  /-- Bold blue. -/
  | boldBlue
  /-- Bold. -/
  | bold
  /-- Green. -/
  | green
  /-- Red. -/
  | red
  /-- Dim. -/
  | dim
  deriving Repr, DecidableEq

/-- The name of a style. -/
def Look.name : Look → String
  | .boldRed => "bold red"
  | .boldCyan => "bold cyan"
  | .boldBlue => "bold blue"
  | .bold => "bold"
  | .green => "green"
  | .red => "red"
  | .dim => "dim"

/-- A stretch of text in a style, from one character up to another. -/
structure Stretch where
  /-- The first character. -/
  start : Nat
  /-- The character after the last one. -/
  stop : Nat
  /-- The style. -/
  look : Look
  deriving Repr, DecidableEq

/-- A text and its styled stretches. -/
structure Styled where
  /-- The characters. -/
  plain : List Char := []
  /-- The stretches, in the order in which they were added. -/
  stretches : List Stretch := []
  deriving Repr, DecidableEq

namespace Styled

/-- Adds a text in a style; an empty text adds nothing. -/
def add (t : Styled) (text : String) (look : Option Look := none) : Styled :=
  if text.isEmpty then t
  else
    let kept := Text.strip text.toList
    let start := t.plain.length
    { plain := t.plain ++ kept,
      stretches := t.stretches ++ match look with
        | some l => [⟨start, start + kept.length, l⟩]
        | none => [] }

/-- The characters as they are printed, with a line feed after them. -/
def printed (t : Styled) : String := String.ofList (Text.expandTabs t.plain ++ ['\n'])

end Styled

end LabelTally.Report
