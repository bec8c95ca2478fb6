import LabelTally.Settings.Basic
import LabelTally.Text.Utf8
import LabelTally.Toml.Reader
import LabelTally.FileTree.Resolve

/-!
# Settings files

Settings are looked for in a directory and its parents. The first directory with a settings file, or
with a project file that has a table of settings, holds them; in it the settings file comes first.
-/

namespace LabelTally

open FileTree (FileSystem)

/-- The name of a settings file. -/
def settingsFileName : String := "codesync.toml"

/-- The name of a project file. -/
def projectFileName : String := "pyproject.toml"

/-- Why there are no settings. -/
inductive LoadFault
  /-- No directory holds settings. -/
  | notFound
  /-- The start cannot be resolved. -/
  | start (fault : FileTree.Unresolved)
  /-- A file cannot be read. -/
  | file (fault : FileTree.Fault)
  /-- A file is no text. -/
  | encoding (defect : Text.Utf8.Defect)
  /-- A project file breaks the rules of the format. -/
  | projectSyntax
  /-- A settings file breaks the rules of the format. -/
  | settingsSyntax (path : Path)
  /-- A file holds a number with too many digits. -/
  | tooManyDigits (e : Decimal.TooManyDigits)
  /-- The tools of a project file are no table. -/
  | toolNotTable (value : Value)
  /-- A file holds unknown fields. -/
  | unknownKeys (path : Path) (names : List String)
  /-- The settings are refused. -/
  | setting (fault : SettingFault)

/-- The words for what breaks the rules of the format. -/
def syntaxWords : String := "<toml error>"

/-- The words for a file that is no text. -/
def defectMessage (d : Text.Utf8.Defect) : String :=
  let reason := match d.reason with
    | .invalidStart => "invalid start byte"
    | .invalidContinuation => "invalid continuation byte"
    | .unexpectedEnd => "unexpected end of data"
  let place :=
    if d.size == 1 then
      "byte 0x" ++ String.ofList (Text.hex 2 d.byte.toNat) ++ " in position " ++ toString d.position
    else
      "bytes in position " ++ toString d.position ++ "-" ++ toString (d.position + d.size - 1)
  "'utf-8' codec can't decode " ++ place ++ ": " ++ reason

/-- The words for missing settings. Unknown fields are reported in quotes. -/
def LoadFault.message : LoadFault → String
  | .notFound =>
    "Could not find " ++ settingsFileName ++ " or a [tool.codesync] table in any parent directory"
  | .start fault => fault.message
  | .file fault => fault.message
  | .encoding defect => defectMessage defect
  | .projectSyntax => syntaxWords
  | .settingsSyntax path => path.text ++ ": " ++ syntaxWords
  | .tooManyDigits e => e.message
  | .toolNotTable v => "'" ++ v.kindName ++ "' object has no attribute 'get'"
  | .unknownKeys path names =>
    Text.quote ("Unknown codesync setting(s) in " ++ path.text ++ ": " ++ ", ".intercalate names)
  | .setting fault => fault.message

/-- Reads a document; `broken` is the fault of one that breaks the rules of the format. -/
def readDocument (fs : FileSystem) (broken : LoadFault) (path : Path) :
    Except LoadFault Toml.Table :=
  match fs.read path with
  | .error e => .error (.file e)
  | .ok bytes =>
    match Text.Utf8.decodeStrict bytes with
    | .error d => .error (.encoding d)
    | .ok cs =>
      match Toml.read cs with
      | .ok table => .ok table
      | .error .malformed => .error broken
      | .error (.tooManyDigits e) => .error (.tooManyDigits e)

/-- The table of settings in a project file. -/
def projectTable (fs : FileSystem) (path : Path) : Except LoadFault (Option Toml.Table) := do
  let document ← readDocument fs .projectSyntax path
  match document.lookup "tool" with
  | none => return none
  | some (.table tools) =>
    match tools.lookup "codesync" with
    | some (.table table) => return some table
    | _ => return none
  | some v => .error (.toolNotTable v)

/-- Names and the names of all directories above, nearest first. -/
def upward (names : List String) : List (List String) :=
  (List.range (names.length + 1)).reverse.map fun n => names.take n

/-- The first of several directories that holds settings. -/
def findAmong (fs : FileSystem) : List (List String) → Except LoadFault (List String)
  | [] => .error .notFound
  | names :: rest =>
    let dir := Path.fromRoot names
    let project := dir.below [projectFileName]
    if fs.contains (dir.below [settingsFileName]) then .ok names
    else if fs.contains project then do
      match ← projectTable fs project with
      | some _ => return names
      | none => findAmong fs rest
    else findAmong fs rest

/-- The directory where settings are looked for first. -/
def startOfSearch (fs : FileSystem) (start : Option Path) : Except LoadFault Path :=
  (fs.resolve (start.getD (Path.fromRoot fs.workDir))).mapError .start

/-- The directory that holds the settings for a start, by default the working directory. -/
def findRoot (fs : FileSystem) (start : Option Path) : Except LoadFault Path := do
  let first ← startOfSearch fs start
  return Path.fromRoot (← findAmong fs (upward first.names))

/-- The entries of the settings in a directory, and the file they come from. -/
def settingsIn (fs : FileSystem) (root : Path) : Except LoadFault (Path × Toml.Table) := do
  let path := root.below [settingsFileName]
  if fs.contains path then return (path, ← readDocument fs (.settingsSyntax path) path)
  else
    let path := root.below [projectFileName]
    return (path, (← projectTable fs path).getD [])

/-- Entries that are no fields of a settings file, by name. -/
def unknownNames (table : Toml.Table) : List String :=
  let known := SettingKey.inFile.map SettingKey.name
  ((table.map (·.1)).filter fun n => !known.contains n).mergeSort fun a b => decide (a ≤ b)

/-- The settings of a table from a file. -/
def settingsOf (root path : Path) (table : Toml.Table) : Except LoadFault Settings :=
  match unknownNames table with
  | [] =>
    let base := ((Settings.default root.text).raw).set .source (.text path.text)
    match base.assign table with
    | .error e => .error (.setting e)
    | .ok raw => raw.check.mapError .setting
  | names => .error (.unknownKeys path names)

/-- The settings for a start. -/
def loadSettings (fs : FileSystem) (start : Option Path) : Except LoadFault Settings := do
  let root ← findRoot fs start
  let (path, table) ← settingsIn fs root
  settingsOf root path table

/-- The settings for a start, or those in force where nothing is set. -/
def settingsFor (fs : FileSystem) (start : Option Path) : Except LoadFault Settings :=
  match loadSettings fs start with
  | .error .notFound => do
    return Settings.default (← startOfSearch fs start).text
  | found => found

end LabelTally
