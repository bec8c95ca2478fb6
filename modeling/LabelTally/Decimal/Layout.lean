import LabelTally.Decimal.Shortest

/-!
# Decimals as text

The text of a binary64 number: positional from a ten-thousandth up to sixteen digits before the
point, with an exponent of at least two digits elsewhere. A whole number keeps one zero after the
point.
-/

namespace LabelTally.Decimal

/-- `n` zeros. -/
def zeros (n : Nat) : String := String.ofList (List.replicate n '0')

/-- The text of a finite decimal without its sign. -/
def layout (d : Digits) : String :=
  let ds := toString d.digits
  let n : Int := ds.length
  let point : Int := n + d.exponent
  if d.digits == 0 then "0.0"
  else if point > 16 || point ≤ -4 then
    let e := point - 1
    let mag := toString e.natAbs
    let tail := String.ofList (ds.toList.drop 1)
    String.ofList (ds.toList.take 1) ++ (if tail.isEmpty then "" else "." ++ tail) ++ "e" ++
      (if e < 0 then "-" else "+") ++ (if mag.length < 2 then "0" ++ mag else mag)
  else if point ≤ 0 then "0." ++ zeros (-point).toNat ++ ds
  else if point ≥ n then ds ++ zeros (point - n).toNat ++ ".0"
  else
    String.ofList (ds.toList.take point.toNat) ++ "." ++ String.ofList (ds.toList.drop point.toNat)

/-- How the numbers outside the finite ones are written. -/
structure Spelling where
  /-- Not a number. -/
  nan : String
  /-- The positive infinity; the negative one takes a minus sign. -/
  infinity : String

/-- The text of a binary64 number. -/
def render (s : Spelling) (x : Float) : String :=
  match Binary.ofFloat x with
  | .nan => s.nan
  | .infinite negative => (if negative then "-" else "") ++ s.infinity
  | .finite negative m e => (if negative then "-" else "") ++ layout (shortest m e)

end LabelTally.Decimal
