import LabelTally.Text.Property.Alphabetic
import LabelTally.Text.Property.Alphanumeric
import LabelTally.Text.Property.CaseIgnorable
import LabelTally.Text.Property.Digit
import LabelTally.Text.Property.Identifier
import LabelTally.Text.Property.LetterCase

/-!
# Classes of characters

The classes that word splitting and patterns ask for. ASCII characters are decided by their code;
all others by the property tables. A character is in at most one of the two letter cases.
-/

namespace LabelTally.Text

/-- The character is one of the first 128. -/
def isAscii (c : Char) : Bool := c.toNat < 128

/-- A property decided by `ascii` below 128 and by runs from there on. -/
def classify (ascii : Char → Bool) (runs : CharSet) (c : Char) : Bool :=
  if isAscii c then ascii c else runs.contains c.toNat

/-- A letter, a digit or a numeral of any script. -/
def isAlphanumeric (c : Char) : Bool := classify Char.isAlphanum alphanumericRuns c

/-- A decimal digit of any script. -/
def isDecimal (c : Char) : Bool := classify Char.isDigit decimalRuns c

/-- The value of a decimal digit of any script: the digits of a script follow each other from zero
on.
-/
def decimalValue? (c : Char) : Option Nat :=
  if c.isDigit then some (c.toNat - 48)
  else (decimalRuns.find? (·.contains c.toNat)).map fun r => (c.toNat - r.first) % 10

/-- A letter of any script. -/
def isAlphabetic (c : Char) : Bool := classify Char.isAlpha alphabeticRuns c

/-- A decimal digit, or a superscript, circled or similar digit. -/
def isDigit (c : Char) : Bool := isDecimal c || (!isAscii c && otherDigitRuns.contains c.toNat)

/-- An uppercase letter or numeral; titlecase letters are not. -/
def isUpper (c : Char) : Bool := classify Char.isUpper uppercaseRuns c

/-- A lowercase letter or numeral; titlecase letters are not. -/
def isLower (c : Char) : Bool := classify Char.isLower lowercaseRuns c

/-- A character with a letter case: uppercase, lowercase or titlecase. -/
def isCased (c : Char) : Bool :=
  isUpper c || isLower c || (!isAscii c && titlecaseRuns.contains c.toNat)

/-- A character that a context-dependent case mapping looks through. -/
def isCaseIgnorable (c : Char) : Bool :=
  classify (fun c => c == '\x27' || c == '.' || c == ':' || c == '^' || c == '\x60')
    caseIgnorableRuns c

/-- A character of a word: alphanumeric or the low line. -/
def isWordChar (c : Char) : Bool := isAlphanumeric c || c == '_'

/-- A character that can start an identifier. -/
def isIdentifierStart (c : Char) : Bool :=
  classify (fun c => c.isAlpha || c == '_') identifierStartRuns c

/-- A character that can continue an identifier. -/
def isIdentifierPart (c : Char) : Bool :=
  isIdentifierStart c || classify Char.isDigit identifierContinueRuns c

/-- A nonempty text of characters that can follow each other in an identifier. -/
def isIdentifier : List Char → Bool
  | [] => false
  | c :: rest => isIdentifierStart c && rest.all isIdentifierPart

end LabelTally.Text
