/-!
# Runs of digits

Numbers written as runs of ASCII digits. A run of more than 4300 digits is not read at all.
-/

namespace LabelTally.Decimal

/-- The largest number of digits that is still read as a number. -/
def digitLimit : Nat := 4300

/-- A number with too many digits to be read. -/
structure TooManyDigits where
  /-- The number of digits. -/
  digits : Nat
  deriving Repr, DecidableEq

/-- The words for a number with too many digits. -/
def TooManyDigits.message (e : TooManyDigits) : String :=
  "Exceeds the limit (4300 digits) for integer string conversion: value has " ++
    toString e.digits ++ " digits; use sys.set_int_max_str_digits() to increase the limit"

/-- An integer with more digits than are ever written. -/
def isTooLong (i : Int) : Bool := i.natAbs ≥ Nat.pow 10 digitLimit

/-- The words for an integer with too many digits to be written. -/
def tooLongMessage : String :=
  "Exceeds the limit (4300 digits) for integer string conversion; " ++
    "use sys.set_int_max_str_digits() to increase the limit"

/-- A nonempty run of ASCII digits. -/
def isDigitRun (cs : List Char) : Bool := !cs.isEmpty && cs.all Char.isDigit

/-- The number that a run of ASCII digits denotes. -/
def digitsValue (cs : List Char) : Nat := cs.foldl (fun n c => n * 10 + (c.toNat - 48)) 0

/-- Reads a run of digits as a number. -/
def readDigits (cs : List Char) : Except TooManyDigits Nat :=
  if cs.length > digitLimit then .error ⟨cs.length⟩ else .ok (digitsValue cs)

end LabelTally.Decimal
