import LabelTally.Comment.Arguments
import LabelTally.Occurrence.Needle
import LabelTally.Text.Lines

/-!
# Scanning

A file is scanned line by line for a marker, and what follows each marker is read. Scanning goes on
after the closing parenthesis of an argument list, valid or not, and directly after a marker without
one, so a marker quoted inside arguments is not found.
-/

namespace LabelTally.Comment

open Decimal Occurrence Text

/-- One marker and what follows it. -/
structure Match where
  /-- The offset of the marker. -/
  offset : Int
  /-- What follows. -/
  outcome : Outcome
  /-- The length of the marker. -/
  markerLength : Nat
  deriving Repr, DecidableEq

/-- The arguments of a valid match. -/
def Match.args? (m : Match) : Option Args :=
  match m.outcome with
  | .valid args => some args
  | _ => none

/-- The match has a valid argument list. -/
def Match.isValid (m : Match) : Bool := m.args?.isSome

/-- The marker, and the argument list of a valid match. -/
def Match.span (m : Match) : Span :=
  let stop := m.offset + m.markerLength
  match m.outcome with
  | .valid args => ⟨m.offset, stop + args.length⟩
  | _ => ⟨m.offset, stop⟩

/-- The stretch that a report on an invalid match underlines: the count if it is to blame. -/
def Match.errorSpan (m : Match) : Span :=
  match m.outcome with
  | .invalidCount span => span
  | _ => m.span

/-- The bytes after a marker that belong to its match: a valid list, or one with a bad count. -/
def consumed (bytes : List UInt8) (outcome : Outcome) : Nat :=
  match outcome with
  | .malformed => 0
  | _ => ((ArgumentBytes.read bytes).map (·.size)).getD 0

/-- The matches of a line that begins at an offset, from left to right. -/
def scanLine (marker : Needle UInt8) (offset : Int) (line : List UInt8) :
    Except TooManyDigits (List Match) :=
  if _nonempty : line.length = 0 then .ok []
  else
    match marker.find? line.toArray 0 with
    | none => .ok []
    | some p => do
      let rest := line.drop (p + marker.length)
      let start := offset + (p + marker.length : Nat)
      let outcome ← Outcome.read rest start
      let size := consumed rest outcome
      let more ← scanLine marker (start + size) (rest.drop size)
      return ⟨offset + p, outcome, marker.length⟩ :: more
termination_by line.length
decreasing_by
  have := marker.nonempty
  simp only [List.length_drop, Needle.length]
  omega

/-- Lines with the offsets of their first bytes, the first of them at `offset`. -/
def withOffsets (offset : Nat) : List (List UInt8) → List (Nat × List UInt8)
  | [] => []
  | line :: rest => (offset, line) :: withOffsets (offset + line.length) rest

/-- The lines of a file in which the marker occurs, with their offsets. A file without the marker is
not cut into lines. -/
def markerLines (marker : Needle UInt8) (data : List UInt8) : List (Nat × List UInt8) :=
  if marker.occursIn data.toArray then
    (withOffsets 0 (lines data)).filter fun l => marker.occursIn l.2.toArray
  else []

/-- The matches of several lines with their offsets. -/
def scanLines (marker : Needle UInt8) :
    List (Nat × List UInt8) → Except TooManyDigits (List Match)
  | [] => .ok []
  | (offset, line) :: rest => do
    let here ← scanLine marker offset line
    return here ++ (← scanLines marker rest)

/-- The matches of a file, from left to right. -/
def scan (marker : Needle UInt8) (data : List UInt8) : Except TooManyDigits (List Match) :=
  scanLines marker (markerLines marker data)

/-- The marker of an annotation. -/
def marker : Needle UInt8 := ⟨#[67, 79, 68, 69, 83, 89, 78, 67], by decide⟩

end LabelTally.Comment
