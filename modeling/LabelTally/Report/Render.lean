import LabelTally.Report.Sources
import LabelTally.Report.Styled
import LabelTally.FileTree.Resolve

/-!
# Rendered findings

A finding is shown with the lines it concerns: each line has its number in a gutter, and below it
carets stand under the stretch in question. Notes and a suggestion follow.
-/

namespace LabelTally.Report

open Check (Finding Location)
open FileTree (FileSystem)

/-- A message about places in files. -/
structure Diagnostic where
  /-- How grave it is. -/
  severity : String := "error"
  /-- Its kind. -/
  code : String
  /-- What it says. -/
  message : String
  /-- The places. -/
  locations : List Location
  /-- Further remarks. -/
  notes : List String := []
  /-- What to write instead. -/
  suggestion : Option String := none
  deriving Repr, DecidableEq

/-- A finding as a message. -/
def ofFinding (f : Finding) : Diagnostic :=
  { code := f.code.name, message := f.message, locations := f.locations, notes := f.notes,
    suggestion := f.suggestion }

/-- The style of a severity. -/
def severityLook (severity : String) : Look :=
  if severity == "error" then .boldRed else if severity == "note" then .boldCyan else .bold

/-- Why a message cannot be shown. -/
inductive RenderFault
  /-- A file cannot be read. -/
  | source (fault : FileTree.Fault)
  /-- A path cannot be resolved. -/
  | unresolved (fault : FileTree.Unresolved)
  deriving Repr, DecidableEq

/-- So many blanks. -/
def blanks (n : Nat) : String := String.ofList (List.replicate n ' ')

/-- The width of the widest line number, at least one. -/
def gutterWidth (found : List Located) : Nat :=
  (found.map fun l => (toString l.line).length).foldl max 1

/-- A line number at the right of the gutter. -/
def numberInGutter (gutter line : Nat) : String :=
  let digits := toString line
  blanks (gutter - digits.length) ++ digits

/-- Adds the block of one place, whose file is shown as `path`. -/
def addPlace (gutter : Nat) (t : Styled) (path : String) (l : Located) : Styled :=
  let pad := blanks gutter
  let carets := blanks (l.column - 1) ++ String.ofList (List.replicate l.width '^') ++ "\n"
  t.add (pad ++ "--> ") (some .boldBlue)
    |>.add (path ++ ":" ++ toString l.line ++ ":" ++ toString l.column ++ "\n")
    |>.add (pad ++ " |\n") (some .boldBlue)
    |>.add (numberInGutter gutter l.line ++ " | ") (some .boldBlue)
    |>.add (String.ofList l.text ++ "\n")
    |>.add (pad ++ " | ") (some .boldBlue)
    |>.add carets (some .boldRed)

/-- Adds a remark below the places. -/
def addRemark (gutter : Nat) (t : Styled) (remark : String) : Styled :=
  t.add (blanks gutter ++ " = ") (some .boldBlue) |>.add (remark ++ "\n")

/-- The first line of a message. -/
def heading (d : Diagnostic) : Styled :=
  ({} : Styled).add d.severity (some (severityLook d.severity))
    |>.add ("[" ++ d.code ++ "]") (some (severityLook d.severity))
    |>.add ": "
    |>.add d.message (some .bold)
    |>.add "\n"

/-- A message whose places were found and whose paths are shown as given. -/
def layOut (d : Diagnostic) (places : List (String × Located)) : Styled :=
  let gutter := gutterWidth (places.map (·.2))
  let t := places.foldl (fun t p => addPlace gutter t p.1 p.2) (heading d)
  let t := d.notes.foldl (fun t n => addRemark gutter t ("note: " ++ n)) t
  match d.suggestion with
  | some s => addRemark gutter t ("help: did you mean `" ++ s ++ "`?")
  | none => t

/-- Paths as they are shown, relative to the working directory. -/
def displayAll (fs : FileSystem) : List Path → Except FileTree.Unresolved (List String)
  | [] => .ok []
  | p :: rest => do
    let shown ← fs.display p (Path.fromRoot fs.workDir)
    return shown :: (← displayAll fs rest)

/-- Shows a message. -/
def render (fs : FileSystem) (s : Sources) (d : Diagnostic) :
    Sources × Except RenderFault Styled :=
  match s.locateAll fs d.locations with
  | (s, .error e) => (s, .error (.source e))
  | (s, .ok found) =>
    match displayAll fs (d.locations.map (·.path)) with
    | .error e => (s, .error (.unresolved e))
    | .ok paths => (s, .ok (layOut d (paths.zip found)))

/-- The printed text of findings, up to the first that cannot be shown. -/
def printFindings (fs : FileSystem) (s : Sources) :
    List Finding → Sources × String × Option RenderFault
  | [] => (s, "", none)
  | f :: rest =>
    match render fs s (ofFinding f) with
    | (s, .error e) => (s, "", some e)
    | (s, .ok t) =>
      let (s, more, fault) := printFindings fs s rest
      (s, t.printed ++ more, fault)

/-- The last line of a report. -/
def summaryLine (r : Check.Report) : Styled :=
  let count := r.findings.length
  let t := ({} : Styled).add ("Checked " ++ toString r.annotations ++ " annotations in " ++
    toString r.files ++ " files: ")
  let t := t.add (toString count ++ " " ++ if count == 1 then "problem" else "problems")
    (some (if count == 0 then .green else .red))
  match r.stoppedAfter with
  | some stage => t.add (" (stopped after " ++ stage.name ++ " checks)") (some .dim)
  | none => t

end LabelTally.Report
