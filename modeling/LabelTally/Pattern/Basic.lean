import LabelTally.Text.Blank
import LabelTally.Text.Folding

/-!
# Patterns

The language in which label patterns and ignore rules are matched: character classes, sequences,
alternatives, bounded and unbounded repetition, captures, references back to them, anchors, and
conditions on what lies ahead or behind. Flags are resolved when a pattern is read, so each step of
a pattern carries the form of comparison that applies to it.
-/

namespace LabelTally

/-- How characters are compared. -/
inductive Fold
  /-- As they are. -/
  | exact
  /-- Without case, for ASCII letters only. -/
  | ascii
  /-- Without case, for all letters. -/
  | full
  deriving Repr, DecidableEq

/-- A named kind of character. -/
inductive CharKind
  /-- Decimal digits. -/
  | digit
  /-- Blanks. -/
  | space
  /-- Alphanumeric characters and the low line. -/
  | word
  deriving Repr, DecidableEq

/-- One item of a character class. -/
inductive ClassItem
  /-- One code. -/
  | code (n : Nat)
  /-- All codes between two bounds, both included. -/
  | range (least most : Nat)
  /-- The characters of a kind, or all others; `ascii` confines the kind to ASCII. -/
  | kind (k : CharKind) (negated ascii : Bool)
  deriving Repr, DecidableEq

/-- A class of characters: those in one of its items, or all others. -/
structure CharClass where
  /-- The class holds the characters in none of the items. -/
  negated : Bool := false
  /-- How a character is compared with the items. -/
  fold : Fold := .exact
  /-- The items. -/
  items : List ClassItem
  deriving Repr, DecidableEq

/-- How a repetition tries its numbers of rounds. -/
inductive Greed
  /-- Most rounds first. -/
  | greedy
  /-- Fewest rounds first. -/
  | lazy
  /-- As many rounds as possible and no other number. -/
  | possessive
  deriving Repr, DecidableEq

/-- Where a possessive repetition goes on after a round that has not matched. Releases of the matcher
differ in this. -/
inductive Resumption
  /-- Where the round began: the later releases. -/
  | began
  /-- Where the round stopped: the earlier releases. -/
  | stopped
  deriving Repr, DecidableEq

/-- A condition on a position. -/
inductive Anchor
  /-- The start of the text. -/
  | start
  /-- The start of a line. -/
  | lineStart
  /-- The end of the text, or the place before a line feed that ends it. -/
  | finish
  /-- The end of a line. -/
  | lineFinish
  /-- The end of the text. -/
  | textEnd
  /-- Between a word character and another one; `ascii` confines the former to ASCII. -/
  | boundary (ascii : Bool)
  /-- Not at such a place. -/
  | notBoundary (ascii : Bool)
  deriving Repr, DecidableEq

namespace Pattern

/-- What a single character must be. -/
inductive Single
  /-- A character that agrees with a code. -/
  | literal (fold : Fold) (code : Nat)
  /-- A character that does not agree with a code. -/
  | notLiteral (fold : Fold) (code : Nat)
  /-- Any character except the line feed. -/
  | inLine
  /-- Any character. -/
  | any
  /-- A character of a class. -/
  | oneOf (c : CharClass)
  deriving Repr, DecidableEq

/-- A step of a pattern. -/
inductive Step
  /-- One character. -/
  | one (s : Single)
  /-- A condition on the position. -/
  | anchor (a : Anchor)
  /-- The text kept under a number once more. -/
  | back (fold : Fold) (index : Nat)
  /-- Steps whose text is kept under a number. -/
  | group (index : Nat) (body : List Step)
  /-- Steps under flags of their own. -/
  | scope (body : List Step)
  /-- Steps of which only the first match is tried. -/
  | atomic (body : List Step)
  /-- A condition on the text from here on, or on so many characters before. -/
  | look (behind : Option Nat) (negated : Bool) (body : List Step)
  /-- The first steps if a text is kept under the number, else the second. -/
  | choose (index : Nat) (yes no : List Step)
  /-- Ways that are tried in order. -/
  | branch (ways : List (List Step))
  /-- Steps repeated between `least` and `most` times. -/
  | many (greed : Greed) (least : Nat) (most : Option Nat) (body : List Step)
  deriving Repr, Inhabited

end Pattern

/-- A pattern: its steps, how many texts it keeps, how many characters it takes at least, and how
its possessive repetitions are run. -/
structure Pattern where
  /-- The steps. -/
  steps : List Pattern.Step
  /-- The number of groups that keep their text. -/
  groups : Nat
  /-- The least number of characters. -/
  least : Nat
  /-- Where possessive repetitions go on after a failed round. -/
  resumption : Resumption := .began
  deriving Repr, Inhabited

end LabelTally
