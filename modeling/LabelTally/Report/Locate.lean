import LabelTally.Comment.Span
import LabelTally.Text.Lines
import LabelTally.Text.Utf8

/-!
# Lines and columns

The line and column of a stretch of bytes, with the text of the line. Lines end at line feeds and
columns count characters; a stretch that runs past its first line is cut there. A negative position
counts from the end.
-/

namespace LabelTally.Report

open Text

/-- Where a stretch of bytes stands. -/
structure Located where
  /-- The line, from one. -/
  line : Nat
  /-- The column, from one. -/
  column : Nat
  /-- The text of the line. -/
  text : List Char
  /-- The number of characters of the stretch, at least one. -/
  width : Nat
  deriving Repr, DecidableEq

/-- The index that a position means among `size` bytes. -/
def clip (size : Nat) (position : Int) : Nat :=
  if position < 0 then (position + size).toNat else min position.toNat size

/-- The start of the line that holds an index. -/
def lineStart (data : List UInt8) (index : Nat) : Nat :=
  index - ((data.take index).reverse.takeWhile (· != lineFeed)).length

/-- The end of the line that holds an index, the line feed not included. -/
def lineEnd (data : List UInt8) (index : Nat) : Nat :=
  index + ((data.drop index).takeWhile (· != lineFeed)).length

/-- The bytes from one index up to another. -/
def slice (data : List UInt8) (start stop : Nat) : List UInt8 := (data.take stop).drop start

/-- The text without carriage returns at its end. -/
def dropReturns (cs : List Char) : List Char := (cs.reverse.dropWhile (· == '\r')).reverse

/-- Where a stretch of a file stands. -/
def locate (data : List UInt8) (span : Span) : Located :=
  let start := min span.start data.length
  let index := clip data.length start
  let first := lineStart data index
  let last := lineEnd data index
  let stop := clip data.length (min (max span.stop start) last)
  { line := (data.take index).count lineFeed + 1,
    column := (Utf8.decode (slice data first index)).length + 1,
    text := dropReturns (Utf8.decode (slice data first last)),
    width := max (Utf8.decode (slice data index stop)).length 1 }

end LabelTally.Report
