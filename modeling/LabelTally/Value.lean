import LabelTally.Decimal.Layout
import LabelTally.Text.Quoted

/-!
# Values

The values that setting files, overrides and printed reports are made of. Tables keep the order in
which their entries were written. Equality of values compares numbers by what they denote, so a
whole float equals an integer and a truth value equals zero or one.
-/

namespace LabelTally

/-- A calendar date. -/
structure Date where
  /-- The year. -/
  year : Nat
  /-- The month, from one. -/
  month : Nat
  /-- The day of the month, from one. -/
  day : Nat
  deriving Repr, DecidableEq

/-- A time of day. -/
structure TimeOfDay where
  /-- Hours after midnight. -/
  hour : Nat
  /-- Minutes after the hour. -/
  minute : Nat
  /-- Seconds after the minute. -/
  second : Nat
  /-- Microseconds after the second. -/
  micros : Nat
  deriving Repr, DecidableEq

/-- A value of a setting or of a report. -/
inductive Value
  /-- The absent value. -/
  | null
  /-- A truth value. -/
  | bool (b : Bool)
  /-- An integer of any size. -/
  | int (i : Int)
  /-- A binary64 number. -/
  | float (x : Float)
  /-- A text. -/
  | text (s : String)
  /-- A list. -/
  | list (items : List Value)
  /-- A table, in the order of its entries. -/
  | table (entries : List (String × Value))
  /-- A calendar date. -/
  | date (d : Date)
  /-- A time of day. -/
  | time (t : TimeOfDay)
  /-- A date with a time of day and, if known, the offset from universal time in minutes. -/
  | moment (d : Date) (t : TimeOfDay) (offset : Option Int)
  deriving Inhabited

/-- The integers that a number can equal: truth values and whole floats denote one. -/
def Value.asInt? : Value → Option Int
  | .bool b => some (if b then 1 else 0)
  | .int i => some i
  | .float x =>
    match Decimal.Binary.ofFloat x with
    | .finite negative m e =>
      let signed (n : Nat) : Int := if negative then -n else n
      if e ≥ 0 then some (signed (m * Nat.pow 2 e.toNat))
      else
        let den := Nat.pow 2 (-e).toNat
        if m % den == 0 then some (signed (m / den)) else none
    | _ => none
  | _ => none

/-- Equality of two values that hold no others. -/
def Value.sameLeaf : Value → Value → Bool
  | .null, .null => true
  | .text s, .text t => s == t
  | .date d, .date d' => d == d'
  | .time t, .time t' => t == t'
  | .moment d t o, .moment d' t' o' => d == d' && t == t' && o == o'
  | .float x, .float y => x == y
  | a, b =>
    match a.asInt?, b.asInt? with
    | some i, some j => i == j
    | _, _ => false

mutual

/-- Equality of values. -/
def Value.same : Value → Value → Bool
  | .list xs, b =>
    match b with
    | .list ys => Value.sameItems xs ys
    | _ => false
  | .table es, b =>
    match b with
    | .table fs => es.length == fs.length && Value.sameEntries es fs
    | _ => false
  | a, b => a.sameLeaf b

/-- Equality of lists of values. -/
def Value.sameItems : List Value → List Value → Bool
  | [], [] => true
  | x :: xs, y :: ys => Value.same x y && Value.sameItems xs ys
  | _, _ => false

/-- Every entry has an equal one under the same key of the other table. -/
def Value.sameEntries : List (String × Value) → List (String × Value) → Bool
  | [], _ => true
  | (k, x) :: es, fs =>
    (match fs.lookup k with
      | some y => Value.same x y
      | none => false) && Value.sameEntries es fs

end

instance : BEq Value := ⟨Value.same⟩

end LabelTally
