import LabelTally.Decimal.Digits
import LabelTally.Text.Blank
import LabelTally.Text.Letter

/-!
# Written integers

An integer as people write it: blanks around it, a sign, digits of any script, and single low lines
between digits.
-/

namespace LabelTally.Decimal

/-- A blank that may stand around an integer. The information separators may not. -/
def isPadding (c : Char) : Bool := Text.isBlank c && !(28 ≤ c.toNat && c.toNat ≤ 31)

/-- The values of digits of any script with single low lines between them; `afterDigit` holds after
a digit. -/
def digitValues (afterDigit : Bool) : List Char → Option (List Nat)
  | [] => if afterDigit then some [] else none
  | c :: rest =>
    if c == '_' then if afterDigit then digitValues false rest else none
    else
      match Text.decimalValue? c with
      | none => none
      | some d => (digitValues true rest).map (d :: ·)

/-- The integer that a text denotes. More digits than are ever read denote none. -/
def readInteger? (cs : List Char) : Option Int :=
  let body := Text.trimBy isPadding cs
  let negative := body.head? == some '-'
  let written := if negative || body.head? == some '+' then body.drop 1 else body
  match digitValues false written with
  | none => none
  | some ds =>
    if ds.length > digitLimit then none
    else
      let n : Nat := ds.foldl (fun n d => n * 10 + d) 0
      some (if negative then -(n : Int) else n)

end LabelTally.Decimal
