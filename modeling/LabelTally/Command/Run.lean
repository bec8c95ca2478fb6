import LabelTally.Collection.Gather
import LabelTally.Command.Arguments
import LabelTally.Report.ErrorLine
import LabelTally.Report.LabelTable
import LabelTally.Report.Render
import LabelTally.Settings.Load

/-!
# Running a check

A check loads the settings, scans the tree, runs the rules and prints what they find. Settings that
are refused end it with code 2, a tree that cannot be scanned and findings with code 1.
-/

namespace LabelTally.Command

open FileTree (FileSystem)

/-- The version of the program. -/
def versionLine : String := "codesync 0.1.0\n"

/-- What a run finds around it: the console, and the matcher that runs patterns. -/
structure Host where
  /-- The cells that a line of the console has. -/
  width : Nat := 80
  /-- Where the matcher goes on after a possessive round that fails. -/
  resumption : Resumption := .began
  deriving Repr, DecidableEq

/-- Why a run breaks off without an exit code. -/
inductive Crash
  /-- Settings cannot be loaded. -/
  | load (fault : LoadFault)
  /-- An ignore rule is refused. -/
  | rule (fault : Ignore.RuleFault)
  /-- A count is too long to be read. -/
  | count (fault : Decimal.TooManyDigits)
  /-- A path cannot be resolved. -/
  | unresolved (fault : FileTree.Unresolved)
  /-- A path cannot be used. -/
  | path (fault : FileTree.Fault)
  /-- The label pattern matches a label with a kept text that ends before it starts. -/
  | crossed

/-- The words for a run that breaks off. -/
def Crash.message : Crash → String
  | .load fault => fault.message
  | .rule fault => fault.message
  | .count fault => fault.message
  | .unresolved fault => fault.message
  | .path fault => fault.message
  | .crossed => Pattern.crossedMessage

/-- How a run ends. -/
inductive Ending
  /-- With an exit code. -/
  | exit (code : Int)
  /-- It breaks off. -/
  | crash (reason : Crash)

/-- What a run prints and how it ends. -/
structure Output where
  /-- What is printed. -/
  stdout : String := ""
  /-- Errors and the log. -/
  stderr : String := ""
  /-- How it ends. -/
  ending : Ending := .exit 0

/-- Gives up with a message. -/
def Output.fail (o : Output) (host : Host) (json : Bool) (message : String) (code : Int) : Output :=
  if json then { o with stdout := o.stdout ++ Report.errorObject message, ending := .exit code }
  else { o with stderr := o.stderr ++ Report.errorLine host.width message, ending := .exit code }

/-- Breaks off. -/
def Output.breakOff (o : Output) (reason : Crash) : Output := { o with ending := .crash reason }

/-- A message without quotes at its ends. -/
def trimQuotes (message : String) : String :=
  String.ofList (Text.trimBy (fun c => c == '\x27' || c == '"') message.toList)

/-- The fault is a matter of what the settings say, which the program reports itself. -/
def isReported : LoadFault → Bool
  | .encoding _ | .projectSyntax | .settingsSyntax _ | .tooManyDigits _ | .unknownKeys .. => true
  | .setting fault =>
    match fault with
    | .unusablePattern fault => fault.problem.kind = .badValue
    | .unknownName _ => false
    | _ => true
  | .start fault => fault = .zeroByte
  | .notFound | .file _ | .toolNotTable _ => false

/-- A line of the log. -/
def logLine (message : String) : String := "[DEBUG] " ++ message ++ "\n"

/-- What a request overrides. -/
def CheckRequest.overrides (r : CheckRequest) : List (String × Value) :=
  let text (v : Option String) : Value := (v.map Value.text).getD .null
  let flag (v : Option Bool) : Value := (v.map Value.bool).getD .null
  [("case_style", text r.style),
   ("acronyms", if r.acronyms.isEmpty then .null else .list (r.acronyms.map .text)),
   ("word_aware_acronyms", flag r.wordAware), ("strict_whitespace", flag r.strictBlanks),
   ("label_pattern", text r.labelPattern), ("respect_gitignore", flag r.heedRuleFiles)]

/-- The settings for a request. -/
def CheckRequest.settings (r : CheckRequest) (fs : FileSystem) : Except LoadFault Settings := do
  let start := if fs.isDirectory r.path then r.path else r.path.parent
  let found ← settingsFor fs (some start)
  (found.raw.merged r.overrides).mapError .setting

/-- Prints findings, the label table if it is asked for, and the summary. -/
def printReport (host : Host) (fs : FileSystem) (summary : Bool) (defaultCount : Int)
    (c : Collection) (report : Check.Report) (o : Output) : Output :=
  let (_, text, fault) := Report.printFindings fs { scanned := c } report.findings
  let o := { o with stdout := o.stdout ++ text }
  match fault with
  | some (.source e) =>
    if e.problem = .zeroByte then o.breakOff (.path e)
    else o.fail host false ("could not read source for diagnostics: " ++ e.message) 1
  | some (.unresolved e) => o.breakOff (.unresolved e)
  | none =>
    let table :=
      if summary then Report.drawTable host.width (Report.labelRows defaultCount c) else ""
    { o with stdout := o.stdout ++ table ++ (Report.summaryLine report).printed,
             ending := .exit (if report.passed then 0 else 1) }

/-- Prints a report as JSON. -/
def printJsonReport (report : Check.Report) (o : Output) : Output :=
  { o with stdout := o.stdout ++ (Value.table report.entries).printJson,
           ending := .exit (if report.passed then 0 else 1) }

/-- Runs a check with settings. -/
def checkWith (host : Host) (fs : FileSystem) (r : CheckRequest) (s : Settings) : Output :=
  let gathering := gather fs (Comment.scan Comment.marker) r.path ⟨s.heedRuleFiles, s.exclude⟩
  let log := ("config: " ++ s.describe) :: gathering.log.map LogEntry.message
  let o : Output := { stderr := if r.verbose then String.join (log.map logLine) else "" }
  match gathering.result with
  | .error (.walk (.start e)) =>
    if e.problem = .zeroByte then o.breakOff (.path e)
    else o.fail host r.json ("could not scan " ++ r.path.text ++ ": " ++ e.message) 1
  | .error (.walk (.rule e)) => o.breakOff (.rule e)
  | .error (.count e) => o.breakOff (.count e)
  | .ok c =>
    let options := s.checkOptions.resuming host.resumption
    let report := Check.run options c
    if Check.breaksOff options c then o.breakOff .crossed
    else if r.json then printJsonReport report o
    else printReport host fs r.summary s.defaultCount c report o

/-- Runs a check. -/
def runCheck (host : Host) (fs : FileSystem) (r : CheckRequest) : Output :=
  match r.settings fs with
  | .ok s => checkWith host fs r s
  | .error e =>
    if isReported e then ({} : Output).fail host r.json (trimQuotes e.message) 2
    else ({} : Output).breakOff (.load e)

/-- Runs what is asked for. -/
def Request.run (host : Host) (fs : FileSystem) : Request → Output
  | .version => { stdout := versionLine }
  | .check r => runCheck host fs r

end LabelTally.Command
