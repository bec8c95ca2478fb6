/-!
# Shortest decimals

A finite binary64 number is `mantissa · 2 ^ exponent`. Its shortest decimal has the fewest digits
among the decimals that round to the number, and is the nearest of those. The layout of a decimal as
text is in `LabelTally.Decimal.Layout`.
-/

namespace LabelTally.Decimal

/-- The parts of a binary64 number. -/
inductive Binary
  /-- Not a number. -/
  | nan
  /-- An infinity. -/
  | infinite (negative : Bool)
  /-- The number `mantissa · 2 ^ exponent` with its sign. -/
  | finite (negative : Bool) (mantissa : Nat) (exponent : Int)
  deriving Repr, DecidableEq

/-- The parts of a binary64 number, read off its bits. -/
def Binary.ofFloat (x : Float) : Binary :=
  let bits := x.toBits.toNat
  let negative := bits / Nat.pow 2 63 == 1
  let biased : Nat := bits / Nat.pow 2 52 % Nat.pow 2 11
  let fraction := bits % Nat.pow 2 52
  if biased == 2047 then if fraction == 0 then .infinite negative else .nan
  else if biased == 0 then .finite negative fraction (-1074)
  else .finite negative (Nat.pow 2 52 + fraction) ((biased : Int) - 1075)

/-- The decimal `digits · 10 ^ exponent`. -/
structure Digits where
  /-- The significant digits as one number. -/
  digits : Nat
  /-- The power of ten that scales them. -/
  exponent : Int
  deriving Repr, DecidableEq

/-- The number of decimal digits of a natural number; zero has one. -/
def digitCount (n : Nat) : Nat := (Nat.toDigits 10 n).length

/-- The greatest `p` with `10 ^ p ≤ num / den`, for positive arguments. -/
def magnitude (num den : Nat) : Int :=
  let p : Int := digitCount num - digitCount den
  let reached :=
    if p ≥ 0 then den * Nat.pow 10 p.toNat ≤ num else den ≤ num * Nat.pow 10 (-p).toNat
  if reached then p else p - 1

/-- A quotient over a power of ten, as numerator and denominator. -/
def scaled (num den : Nat) (e : Int) : Nat × Nat :=
  if e ≥ 0 then (num, den * Nat.pow 10 e.toNat) else (num * Nat.pow 10 (-e).toNat, den)

/-- An interval of rationals with one denominator, and whether its ends belong to it. -/
structure Interval where
  /-- The lower end. -/
  low : Nat
  /-- The upper end. -/
  high : Nat
  /-- The common denominator. -/
  den : Nat
  /-- Both ends belong to the interval. -/
  closed : Bool

/-- The decimal `d · 10 ^ e` lies in the interval. -/
def Interval.holds (i : Interval) (d : Nat) (e : Int) : Bool :=
  let (n, m) := if e ≥ 0 then (d * Nat.pow 10 e.toNat, 1) else (d, Nat.pow 10 (-e).toNat)
  let l := i.low * m
  let h := i.high * m
  let x := n * i.den
  if i.closed then l ≤ x && x ≤ h else l < x && x < h

/-- The neighbour of `num / den` on the grid of step `10 ^ e` that lies in the interval; the nearer
one if both do, and the even one at equal distance. -/
def gridPoint? (num den : Nat) (i : Interval) (e : Int) : Option Nat :=
  let (n, d) := scaled num den e
  let below := n / d
  let above := below + 1
  match i.holds below e, i.holds above e with
  | true, true =>
    let gap := 2 * (n - below * d)
    if gap < d || (gap == d && below % 2 == 0) then some below else some above
  | true, false => some below
  | false, true => some above
  | false, false => none

/-- The first grid with a point in the interval, trying `k` digits and then more. -/
def firstGrid (num den : Nat) (i : Interval) (p : Int) : (k fuel : Nat) → Digits
  | _, 0 => ⟨num / den, 0⟩
  | k, fuel + 1 =>
    let e := p - (k - 1 : Int)
    match gridPoint? num den i e with
    | some d => ⟨d, e⟩
    | none => firstGrid num den i p (k + 1) fuel

/-- The decimal without trailing zeros among its digits. -/
def Digits.strip (d : Digits) : Nat → Digits
  | 0 => d
  | fuel + 1 =>
    if d.digits ≠ 0 ∧ d.digits % 10 = 0 then strip ⟨d.digits / 10, d.exponent + 1⟩ fuel else d

/-- The shortest decimal that rounds to `mantissa · 2 ^ exponent`; seventeen digits always suffice.
-/
def shortest (mantissa : Nat) (exponent : Int) : Digits :=
  if mantissa = 0 then ⟨0, 0⟩
  else
    let q := exponent - 2
    let up := if q ≥ 0 then Nat.pow 2 q.toNat else 1
    let den := if q ≥ 0 then 1 else Nat.pow 2 (-q).toNat
    let atBoundary := mantissa == Nat.pow 2 52 && exponent > -1074
    let interval : Interval :=
      { low := (4 * mantissa - (if atBoundary then 1 else 2)) * up
        high := (4 * mantissa + 2) * up
        den
        closed := mantissa % 2 == 0 }
    let num := 4 * mantissa * up
    (firstGrid num den interval (magnitude num den) 1 17).strip 20

end LabelTally.Decimal
