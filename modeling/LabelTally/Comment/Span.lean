/-!
# Spans

A span is a stretch of bytes of a file, given by its ends. Offsets are integers, since a caller may
place a line anywhere.
-/

namespace LabelTally

/-- The bytes from `start` up to, not including, `stop`. -/
structure Span where
  /-- The offset of the first byte. -/
  start : Int
  /-- The offset after the last byte. -/
  stop : Int
  deriving Repr, DecidableEq

end LabelTally
