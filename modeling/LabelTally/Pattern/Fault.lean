import LabelTally.Decimal.Digits
import LabelTally.Pattern.Basic
import LabelTally.Text.Quoted

/-!
# Faults of written patterns

Why a written pattern is refused, where, and the words in which this is reported.
-/

namespace LabelTally.Pattern

/-- Why a written pattern is refused. -/
inductive Problem
  /-- A backslash ends the pattern. -/
  | escapeAtEnd
  /-- An escape that means nothing. -/
  | badEscape (escape : String)
  /-- A numeric escape with too few digits. -/
  | incompleteEscape (escape : String)
  /-- An octal escape above 377. -/
  | octalTooLarge (escape : String)
  /-- A named escape without its name in braces. -/
  | missingBrace
  /-- A name that no character has. -/
  | unknownCharacter (name : String)
  /-- A name is expected. -/
  | missingName (what : String)
  /-- A name does not end. -/
  | unterminatedName (terminator : Char)
  /-- A name that is no identifier. -/
  | badName (name : String)
  /-- A name that no group has. -/
  | unknownName (name : String)
  /-- A name given to two groups. -/
  | renamed (name : String) (index previous : Nat)
  /-- A reference to a group from within. -/
  | openGroup
  /-- A reference, behind, to a group that is itself behind. -/
  | sameBehind
  /-- A reference to a group that there is none of. -/
  | noGroup (index : Nat)
  /-- Group zero in a condition. -/
  | groupZero
  /-- A class does not end. -/
  | unterminatedClass
  /-- A range whose bounds are no characters or in the wrong order. -/
  | badRange (least most : String)
  /-- A repetition of nothing. -/
  | nothingToRepeat
  /-- A repetition of a repetition. -/
  | multipleRepeat
  /-- A repetition with more rounds at least than at most. -/
  | repeatBounds
  /-- A number of rounds beyond all bounds. -/
  | repeatTooLarge
  /-- The pattern ends inside a group's opening. -/
  | unexpectedEnd
  /-- An extension that there is none of. -/
  | unknownExtension (ext : String)
  /-- A comment does not end. -/
  | unterminatedComment
  /-- A group does not end. -/
  | unterminatedGroup
  /-- A condition with a third branch. -/
  | thirdBranch
  /-- Flags for the whole pattern after its start. -/
  | lateFlags
  /-- A flag that does not fit texts. -/
  | localeFlag
  /-- Flags that exclude each other. -/
  | incompatibleFlags
  /-- A flag that there is none of. -/
  | unknownFlag
  /-- Something else is expected among flags. -/
  | missingAmongFlags (what : String)
  /-- A flag for the whole pattern in a group. -/
  | globalFlag (turn : String)
  /-- A flag that cannot be turned off. -/
  | fixedFlag
  /-- A flag turned on and off at once. -/
  | contraryFlag
  /-- A closing parenthesis without an opening one. -/
  | unbalanced
  /-- A condition on the text before with no fixed width. -/
  | variableBehind
  /-- A condition on the text before that reaches too far. -/
  | farBehind
  /-- A number of rounds with too many digits to read. -/
  | longNumber (digits : Nat)
  /-- Flags for the whole pattern that exclude each other. -/
  | flagClash
  /-- A repetition in a pattern that is a template. -/
  | templateRepeat (greed : Greed)
  deriving Repr, DecidableEq

/-- What sort of refusal a problem is. -/
inductive ProblemKind
  /-- The pattern is not well formed. -/
  | malformed
  /-- A number is beyond all bounds. -/
  | tooLarge
  /-- A value cannot be used. -/
  | badValue
  deriving Repr, DecidableEq

/-- The sort of a problem. -/
def Problem.kind : Problem → ProblemKind
  | .repeatTooLarge => .tooLarge
  | .longNumber _ | .flagClash => .badValue
  | _ => .malformed

/-- The name of a repetition in reports. -/
def greedName : Greed → String
  | .greedy => "MAX_REPEAT"
  | .lazy => "MIN_REPEAT"
  | .possessive => "POSSESSIVE_REPEAT"

/-- The words for a problem. -/
def Problem.message : Problem → String
  | .escapeAtEnd => "bad escape (end of pattern)"
  | .badEscape e => "bad escape " ++ e
  | .incompleteEscape e => "incomplete escape " ++ e
  | .octalTooLarge e => "octal escape value " ++ e ++ " outside of range 0-0o377"
  | .missingBrace => "missing \x7b"
  | .unknownCharacter n => "undefined character name " ++ Text.quote n
  | .missingName what => "missing " ++ what
  | .unterminatedName t => "missing " ++ t.toString ++ ", unterminated name"
  | .badName n => "bad character in group name " ++ Text.quote n
  | .unknownName n => "unknown group name " ++ Text.quote n
  | .renamed n i j =>
    "redefinition of group name " ++ Text.quote n ++ " as group " ++ toString i ++
      "; was group " ++ toString j
  | .openGroup => "cannot refer to an open group"
  | .sameBehind => "cannot refer to group defined in the same lookbehind subpattern"
  | .noGroup i => "invalid group reference " ++ toString i
  | .groupZero => "bad group number"
  | .unterminatedClass => "unterminated character set"
  | .badRange a b => "bad character range " ++ a ++ "-" ++ b
  | .nothingToRepeat => "nothing to repeat"
  | .multipleRepeat => "multiple repeat"
  | .repeatBounds => "min repeat greater than max repeat"
  | .repeatTooLarge => "the repetition number is too large"
  | .unexpectedEnd => "unexpected end of pattern"
  | .unknownExtension e => "unknown extension ?" ++ e
  | .unterminatedComment => "missing ), unterminated comment"
  | .unterminatedGroup => "missing ), unterminated subpattern"
  | .thirdBranch => "conditional backref with more than two branches"
  | .lateFlags => "global flags not at the start of the expression"
  | .localeFlag => "bad inline flags: cannot use 'L' flag with a str pattern"
  | .incompatibleFlags => "bad inline flags: flags 'a', 'u' and 'L' are incompatible"
  | .unknownFlag => "unknown flag"
  | .missingAmongFlags what => "missing " ++ what
  | .globalFlag turn => "bad inline flags: cannot turn " ++ turn ++ " global flag"
  | .fixedFlag => "bad inline flags: cannot turn off flags 'a', 'u' and 'L'"
  | .contraryFlag => "bad inline flags: flag turned on and off"
  | .unbalanced => "unbalanced parenthesis"
  | .variableBehind => "look-behind requires fixed-width pattern"
  | .farBehind => "looks too much behind"
  | .longNumber digits => (Decimal.TooManyDigits.mk digits).message
  | .flagClash => "ASCII and UNICODE flags are incompatible"
  | .templateRepeat greed => "internal: unsupported template operator " ++ greedName greed

/-- Why a written pattern is refused, and where if it is a matter of one place. -/
structure Fault where
  /-- The problem. -/
  problem : Problem
  /-- The position it is reported at. -/
  position : Option Nat
  deriving Repr, DecidableEq

/-- The words for a fault of a written pattern. A pattern of several lines is reported with line and
column as well. -/
def Fault.message (f : Fault) (pattern : String) : String :=
  match f.position with
  | none => f.problem.message
  | some pos =>
    let before := pattern.toList.take pos
    let column := (before.reverse.takeWhile (· ≠ '\n')).length + 1
    f.problem.message ++ " at position " ++ toString pos ++
      if pattern.toList.contains '\n' then
        " (line " ++ toString (before.count '\n' + 1) ++ ", column " ++ toString column ++ ")"
      else ""

end LabelTally.Pattern
