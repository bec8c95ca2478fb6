/-!
# Blank characters

The characters that trimming removes from both ends of an argument, and the trimming of a text.
-/

namespace LabelTally.Text

/-- Tab to carriage return, the four information separators, space, next line, no-break space and
the spaces and line separators of general punctuation and of ideographic text. -/
def isBlank (c : Char) : Bool :=
  let n := c.toNat
  (9 ≤ n && n ≤ 13) || (28 ≤ n && n ≤ 32) || n == 0x85 || n == 0xa0 || n == 0x1680 ||
    (0x2000 ≤ n && n ≤ 0x200a) || n == 0x2028 || n == 0x2029 || n == 0x202f || n == 0x205f ||
    n == 0x3000

/-- The text without its leading and trailing characters of one kind. -/
def trimBy (p : Char → Bool) (cs : List Char) : List Char :=
  ((cs.dropWhile p).reverse.dropWhile p).reverse

/-- The text without leading and trailing blanks. -/
def trim (cs : List Char) : List Char := trimBy isBlank cs

/-- The text without trailing blanks. -/
def trimRight (cs : List Char) : List Char := (cs.reverse.dropWhile isBlank).reverse

end LabelTally.Text
