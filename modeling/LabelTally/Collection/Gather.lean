import LabelTally.Collection.Basic
import LabelTally.FileTree.Walk

/-!
# Gathering a collection

Every file that a walk meets is scanned, unless it looks binary: then it counts as a file without
matches. A file with matches keeps the bytes they were read from. What happens on the way is logged.
-/

namespace LabelTally

open Comment (Match)
open Decimal (TooManyDigits)
open FileTree (FileSystem Step WalkFault WalkOptions)

/-- What a scan logs. -/
inductive LogEntry
  /-- The rules of a file are heeded. -/
  | loadedRules (path : Path)
  /-- A directory is left out. -/
  | skippedDirectory (names : List String)
  /-- A file looks binary. -/
  | skippedBinary (path : Path)
  /-- A file has matches. -/
  | annotated (path : Path) (count : Nat)
  /-- The scan is complete. -/
  | scanned (files : Nat)
  deriving Repr, DecidableEq

/-- The text of a log entry. -/
def LogEntry.message : LogEntry → String
  | .loadedRules path => "loaded ignore rules from " ++ path.text
  | .skippedDirectory names => "skipping directory " ++ Path.joinNames names
  | .skippedBinary path => "skipping binary file " ++ path.text
  | .annotated path count => path.text ++ ": " ++ toString count ++ " annotation(s)"
  | .scanned files => "scanned " ++ toString files ++ " files"

/-- Why there is no collection. -/
inductive ScanFault
  /-- The tree cannot be walked. -/
  | walk (fault : WalkFault)
  /-- A count is too long to be read. -/
  | count (fault : TooManyDigits)
  deriving Repr, DecidableEq

/-- A zero byte among the first 8192 makes a file look binary. -/
def looksBinary (content : List UInt8) : Bool := (content.take 8192).contains 0

/-- How the bytes of a file are scanned. -/
abbrev Scanner := List UInt8 → Except TooManyDigits (List Match)

/-- The matches of a file; one that looks binary has none. -/
def scanFile (scan : Scanner) (path : Path) (content : List UInt8) :
    Except TooManyDigits ScannedFile :=
  if looksBinary content then .ok ⟨path, [], none⟩
  else
    match scan content with
    | .error e => .error e
    | .ok found => .ok ⟨path, found, if found.isEmpty then none else some content⟩

/-- What scanning a file logs. -/
def scanLog (content : List UInt8) (file : ScannedFile) : List LogEntry :=
  if looksBinary content then [.skippedBinary file.path]
  else if file.found.isEmpty then []
  else [.annotated file.path file.found.length]

/-- Scans what a walk meets below a path. -/
def scanSteps (scan : Scanner) (root : Path) :
    List Step → List LogEntry × Except TooManyDigits (List ScannedFile)
  | [] => ([], .ok [])
  | .skipped names :: rest =>
    let (log, files) := scanSteps scan root rest
    (.skippedDirectory names :: log, files)
  | .file names content :: rest =>
    match scanFile scan (root.below names) content with
    | .error e => ([], .error e)
    | .ok file =>
      let (log, files) := scanSteps scan root rest
      (scanLog content file ++ log, files.map (file :: ·))

/-- A scan: what it logs and what it finds. -/
structure Gathering where
  /-- The log, earlier entries first. -/
  log : List LogEntry
  /-- The collection, or why there is none. -/
  result : Except ScanFault Collection

/-- Scans the files below a path. -/
def gather (fs : FileSystem) (scan : Scanner) (root : Path) (o : WalkOptions) : Gathering :=
  let walk := fs.walk root o
  let loaded := walk.ruleFiles.map LogEntry.loadedRules
  match walk.steps with
  | .error e => ⟨loaded, .error (.walk e)⟩
  | .ok steps =>
    match scanSteps scan root steps with
    | (log, .error e) => ⟨loaded ++ log, .error (.count e)⟩
    | (log, .ok files) => ⟨loaded ++ log ++ [.scanned files.length], .ok ⟨files⟩⟩

end LabelTally
