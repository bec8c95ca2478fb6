import LabelTally.Check.Finding
import LabelTally.Collection.Basic
import LabelTally.Label.Style
import LabelTally.Pattern.Run

/-!
# Rules

The rules run in stages: annotations are well formed; the comments with one label declare one count
and are as many; labels and arguments are in style. Each stage reports all it finds, and findings of
the first two stages end the run.
-/

namespace LabelTally.Check

open Label (AcronymRule Style)

/-- A pattern that labels have to match, and its text. -/
structure LabelPattern where
  /-- The text of the pattern. -/
  source : String
  /-- The pattern. -/
  pattern : Pattern
  deriving Repr

/-- The label matches the pattern from end to end. -/
def LabelPattern.accepts (p : LabelPattern) (label : String) : Bool :=
  p.pattern.matchesAll label.toList.toArray

/-- The label matches the pattern with a kept text that ends before it starts. -/
def LabelPattern.isCrossedBy (p : LabelPattern) (label : String) : Bool :=
  p.pattern.isCrossedBy label.toList.toArray

/-- The pattern, run by the matcher's rule for possessive rounds that fail. -/
def LabelPattern.resuming (p : LabelPattern) (r : Resumption) : LabelPattern :=
  { p with pattern.resumption := r }

/-- Which rules run, and how. -/
structure Options where
  /-- Annotations have to be well formed. -/
  checkInvalid : Bool := true
  /-- Counts have to agree. -/
  checkCounts : Bool := true
  /-- The style of labels. -/
  style : Option Style := none
  /-- How acronyms are treated. -/
  acronyms : AcronymRule := {}
  /-- Blanks around arguments are reported. -/
  strictBlanks : Bool := false
  /-- The pattern of labels. -/
  labelPattern : Option LabelPattern := none
  /-- The count of an annotation without one. -/
  defaultCount : Int := Comment.defaultCount
  deriving Repr

/-- The options, with a label pattern that is run by the matcher's rule for possessive rounds that
fail. -/
def Options.resuming (o : Options) (r : Resumption) : Options :=
  { o with labelPattern := o.labelPattern.map (·.resuming r) }

/-- The plural of a word, unless the count is one. -/
def pluralize (word : String) (count : Int) : String := if count = 1 then word else word ++ "s"

/-- A label, or other text, set off in a message. -/
def setOff (text : String) : String := "`" ++ text ++ "`"

/-- The remark on a marker without arguments. -/
def malformedNote : String :=
  "comment must contain a label and an optional count, " ++
    "e.g., `CODESYNC(my-label)`, `CODESYNC(my-label, 3)`"

/-- The finding for an invalid match. -/
def invalidFinding (m : InvalidMention) : Finding :=
  match m.found.outcome with
  | .invalidCount _ =>
    { code := .invalidCount, message := "invalid count",
      locations := [⟨m.path, m.found.errorSpan⟩], notes := ["second argument must be an integer"] }
  | _ =>
    { code := .malformed, message := "malformed codesync comment",
      locations := [⟨m.path, m.found.span⟩], notes := [malformedNote] }

/-- The findings of the first stage. -/
def invalidFindings (c : Collection) : List Finding := c.invalid.map invalidFinding

/-- The different counts that comments declare, in increasing order. -/
def declaredCounts (default : Int) (group : List Mention) : List Int :=
  ((group.map fun m => m.args.countOr default).eraseDups).mergeSort fun a b => decide (a ≤ b)

/-- Numbers with commas between them. -/
def joinCounts (counts : List Int) : String := ", ".intercalate (counts.map fun n => toString n)

/-- The finding for the comments with one label, if their counts do not agree with each other or
with their number. -/
def countFinding (default : Int) (label : String) (group : List Mention) : Option Finding :=
  let locations := group.map fun m => Location.mk m.path m.found.span
  match declaredCounts default group with
  | [] => none
  | [expected] =>
    if (group.length : Int) = expected then none
    else some
      { code := .countMismatch,
        message := "expected " ++ toString expected ++ " " ++ pluralize "comment" expected ++
          " with label " ++ setOff label ++ ", found " ++ toString group.length,
        locations }
  | counts => some
      { code := .countDisagreement,
        message := "all comments with label " ++ setOff label ++ " must have the same count",
        locations, notes := ["declared counts: " ++ joinCounts counts] }

/-- The findings of the second stage. -/
def countFindings (default : Int) (c : Collection) : List Finding :=
  c.groups.filterMap fun g => countFinding default g.1 g.2

/-- The finding for a label that is not in a style. -/
def casingFinding (style : Style) (rule : AcronymRule) (m : Mention) : Option Finding :=
  let expected := String.ofList (Label.convert style rule m.label.toList)
  if expected = m.label then none
  else some
    { code := .casing, message := "label " ++ setOff m.label ++ " is not " ++ style.sample,
      locations := [⟨m.path, m.args.label.span⟩],
      suggestion := if expected.isEmpty then none else some expected }

/-- The finding for an argument with blanks around it. -/
def blankFinding {α : Type} (path : Path) (name : String) (a : Comment.Arg α) : Option Finding :=
  if a.hasExtraBlanks then some
    { code := .whitespace,
      message := "extra whitespace around " ++ name ++ " " ++ setOff a.trimmed,
      locations := [⟨path, a.span⟩], suggestion := some a.trimmed }
  else none

/-- The findings for the arguments of a comment. -/
def blankFindings (m : Mention) : List Finding :=
  (blankFinding m.path "label" m.args.label).toList ++
    (match m.args.count with
      | some a => (blankFinding m.path "count" a).toList
      | none => [])

/-- The finding for a label that does not match a pattern. -/
def patternFinding (p : LabelPattern) (m : Mention) : Option Finding :=
  if p.accepts m.label then none
  else some
    { code := .labelPattern,
      message := "label " ++ setOff m.label ++ " does not match " ++ setOff p.source,
      locations := [⟨m.path, m.args.label.span⟩] }

/-- The findings of the last stage. -/
def styleFindings (o : Options) (c : Collection) : List Finding :=
  (match o.style with
    | some s => c.mentions.filterMap (casingFinding s o.acronyms)
    | none => []) ++
  (if o.strictBlanks then c.mentions.flatMap blankFindings else []) ++
  (match o.labelPattern with
    | some p => c.mentions.filterMap (patternFinding p)
    | none => [])

/-- Runs the rules. -/
def run (o : Options) (c : Collection) : Report :=
  let report findings stoppedAfter : Report := ⟨findings, stoppedAfter, c.files.length, c.total⟩
  let invalid := if o.checkInvalid then invalidFindings c else []
  if !invalid.isEmpty then report invalid (some .invalid)
  else
    let counts := if o.checkCounts then countFindings o.defaultCount c else []
    if !counts.isEmpty then report counts (some .counts)
    else report (styleFindings o c) none

/-- The rules cannot be run to their end: the last one meets a label whose match keeps a text that
ends before it starts. -/
def breaksOff (o : Options) (c : Collection) : Bool :=
  match o.labelPattern with
  | some p => (run o c).stoppedAfter.isNone && c.mentions.any fun m => p.isCrossedBy m.label
  | none => false

end LabelTally.Check
