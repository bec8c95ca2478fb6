/-!
# Sets and shifts of code points

A property of characters is a list of runs, and a case mapping is a list of shifted runs. A run may
skip: alphabets that alternate capital and small letters are runs of step two.
-/

namespace LabelTally.Text

/-- The code points `first`, `first + step`, and so on, up to `last`. -/
structure Run where
  /-- The first member. -/
  first : Nat
  /-- No member is larger. -/
  last : Nat
  /-- The distance of neighbouring members. -/
  step : Nat
  deriving Repr, DecidableEq

/-- Membership of a code point in a run. -/
def Run.contains (r : Run) (code : Nat) : Bool :=
  r.first ≤ code && code ≤ r.last && (code - r.first) % r.step == 0

/-- A property of characters, given by its runs. -/
abbrev CharSet := List Run

/-- Membership of a code point in a set. -/
def CharSet.contains (s : CharSet) (code : Nat) : Bool :=
  s.any (·.contains code)

/-- A run of code points that all move by the same distance. -/
structure Shift where
  /-- The first member. -/
  first : Nat
  /-- No member is larger. -/
  last : Nat
  /-- The distance of neighbouring members. -/
  step : Nat
  /-- What is added to a member. -/
  delta : Int
  deriving Repr, DecidableEq

/-- The image of a code point under the first shift that holds it. -/
def shift? (shifts : List Shift) (code : Nat) : Option Nat :=
  (shifts.find? fun s => (Run.mk s.first s.last s.step).contains code).map
    fun s => (code + s.delta : Int).toNat

end LabelTally.Text
