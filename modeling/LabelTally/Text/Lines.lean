/-!
# Lines

A file of bytes is cut into lines after a line feed, a carriage return, or both in this order; the
pieces keep their terminators, so they concatenate to the file. A text is cut at more characters,
and its lines lose their terminators.
-/

namespace LabelTally.Text

/-- The line feed byte. -/
def lineFeed : UInt8 := 10

/-- The carriage return byte. -/
def carriageReturn : UInt8 := 13

/-- The lines of `bytes` with their terminators; `current` holds the open line, last byte first. -/
def linesFrom (current : List UInt8) : List UInt8 → List (List UInt8)
  | [] => if current.isEmpty then [] else [current.reverse]
  | [b] => [(b :: current).reverse]
  | b :: b' :: rest =>
    if b = carriageReturn ∧ b' = lineFeed then
      (b' :: b :: current).reverse :: linesFrom [] rest
    else if b = lineFeed ∨ b = carriageReturn then
      (b :: current).reverse :: linesFrom [] (b' :: rest)
    else linesFrom (b :: current) (b' :: rest)

/-- The lines of a file with their terminators. -/
def lines (bytes : List UInt8) : List (List UInt8) := linesFrom [] bytes

/-- A character that ends a line of text: the four ASCII line controls, the information separators
except the last, next line, and the line and paragraph separators. -/
def isLineEnd (c : Char) : Bool :=
  let n := c.toNat
  (10 ≤ n && n ≤ 13) || (28 ≤ n && n ≤ 30) || n == 0x85 || n == 0x2028 || n == 0x2029

/-- The lines of a text without their ends; `current` holds the open line, last character first. A
carriage return and a line feed after it are one end. -/
def textLinesFrom (current : List Char) : List Char → List (List Char)
  | [] => if current.isEmpty then [] else [current.reverse]
  | [c] => if isLineEnd c then [current.reverse] else [(c :: current).reverse]
  | c :: c' :: rest =>
    if c = '\r' ∧ c' = '\n' then current.reverse :: textLinesFrom [] rest
    else if isLineEnd c then current.reverse :: textLinesFrom [] (c' :: rest)
    else textLinesFrom (c :: current) (c' :: rest)

/-- The lines of a text without their ends. -/
def textLines (cs : List Char) : List (List Char) := textLinesFrom [] cs

end LabelTally.Text
