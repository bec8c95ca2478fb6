import LabelTally.Value

/-!
# Order of numbers

Which values count as true, and the order of numbers of all kinds. A finite number is an integer
over a power of two, so numbers are compared exactly.
-/

namespace LabelTally

/-- The value counts as true: it is not absent, zero, false or empty. -/
def Value.isTrue : Value → Bool
  | .null => false
  | .bool b => b
  | .int i => i != 0
  | .float x => x != 0
  | .text s => !s.isEmpty
  | .list items => !items.isEmpty
  | .table entries => !entries.isEmpty
  | _ => true

/-- An integer over a power of two. -/
structure Dyadic where
  /-- The integer. -/
  top : Int
  /-- The exponent of the power. -/
  halvings : Nat
  deriving Repr, DecidableEq

/-- The order of such numbers. -/
def Dyadic.le (a b : Dyadic) : Bool :=
  a.top * Nat.pow 2 b.halvings ≤ b.top * Nat.pow 2 a.halvings

/-- The number that a value denotes, if it denotes a finite one. -/
def Value.dyadic? : Value → Option Dyadic
  | .bool b => some ⟨if b then 1 else 0, 0⟩
  | .int i => some ⟨i, 0⟩
  | .float x =>
    match Decimal.Binary.ofFloat x with
    | .finite negative m e =>
      let top : Int := (m * Nat.pow 2 e.toNat : Nat)
      some ⟨if negative then -top else top, (-e).toNat⟩
    | _ => none
  | _ => none

/-- A value that can be ordered among numbers. -/
def Value.isNumber (v : Value) : Bool := v.dyadic?.isSome

/-- The order of values by the numbers they denote. -/
def Value.le (a b : Value) : Bool :=
  match a.dyadic?, b.dyadic? with
  | some x, some y => x.le y
  | _, _ => true

end LabelTally
