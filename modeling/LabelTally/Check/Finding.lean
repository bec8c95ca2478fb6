import LabelTally.Comment.Span
import LabelTally.FileTree.Path
import LabelTally.Value

/-!
# Findings

What the rules report: a kind, a message, the places it concerns, and what helps to mend it.
-/

namespace LabelTally.Check

/-- A stretch of a file. -/
structure Location where
  /-- The path of the file. -/
  path : Path
  /-- The bytes. -/
  span : Span
  deriving Repr, DecidableEq

/-- The kinds of findings. -/
inductive Code
  /-- No argument list follows the marker. -/
  | malformed
  /-- The second argument is no count. -/
  | invalidCount
  /-- The number of comments differs from the declared count. -/
  | countMismatch
  /-- Comments with one label declare different counts. -/
  | countDisagreement
  /-- A label is not in the required style. -/
  | casing
  /-- An argument has blanks around it. -/
  | whitespace
  /-- A label does not match the required pattern. -/
  | labelPattern
  deriving Repr, DecidableEq

/-- The name of a kind. -/
def Code.name : Code → String
  | .malformed => "malformed"
  | .invalidCount => "invalid-count"
  | .countMismatch => "count-mismatch"
  | .countDisagreement => "count-disagreement"
  | .casing => "casing"
  | .whitespace => "whitespace"
  | .labelPattern => "label-pattern"

/-- A finding. Every finding is an error. -/
structure Finding where
  /-- Its kind. -/
  code : Code
  /-- What is wrong. -/
  message : String
  /-- Where it is wrong. -/
  locations : List Location
  /-- Further remarks. -/
  notes : List String := []
  /-- What to write instead. -/
  suggestion : Option String := none
  deriving Repr, DecidableEq

/-- A stage of the rules after which a run can stop. -/
inductive Stage
  /-- The annotations are well formed. -/
  | invalid
  /-- The counts agree. -/
  | counts
  deriving Repr, DecidableEq

/-- The name of a stage. -/
def Stage.name : Stage → String
  | .invalid => "invalid"
  | .counts => "counts"

/-- The findings of a run and where it stopped. -/
structure Report where
  /-- The findings. -/
  findings : List Finding
  /-- The stage with findings after which the run stopped. -/
  stoppedAfter : Option Stage
  /-- The number of files. -/
  files : Nat
  /-- The number of annotations. -/
  annotations : Nat
  deriving Repr, DecidableEq

/-- The run has no findings. -/
def Report.passed (r : Report) : Bool := r.findings.isEmpty

/-- A location as a value. -/
def Location.value (l : Location) : Value :=
  .table [("path", .text l.path.text), ("start", .int l.span.start), ("end", .int l.span.stop)]

/-- A finding as a value; empty notes and a missing suggestion are left out. -/
def Finding.value (f : Finding) : Value :=
  .table ([("severity", .text "error"), ("code", .text f.code.name), ("message", .text f.message),
    ("locations", .list (f.locations.map Location.value))] ++
    (if f.notes.isEmpty then [] else [("notes", .list (f.notes.map .text))]) ++
    (match f.suggestion with
      | some s => [("suggestion", .text s)]
      | none => []))

/-- The entries of a report as a value. -/
def Report.entries (r : Report) : List (String × Value) :=
  [("files", .int r.files), ("annotations", .int r.annotations), ("passed", .bool r.passed),
   ("stopped_after", match r.stoppedAfter with
      | some s => .text s.name
      | none => .null),
   ("findings", .list (r.findings.map Finding.value))]

end LabelTally.Check
