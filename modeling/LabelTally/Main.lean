import LabelTally.Command.Run

/-!
# The command line

Reads from the disk what a check needs, runs it, and prints its output.
-/

namespace LabelTally.Disk

open FileTree (FileSystem Node)

/-- The names of an absolute path. -/
def namesOf (text : String) : List String := (Path.ofText text).names

/-- A link to the place that it finally leads to, or to nothing. -/
def readLink (text : String) : IO Node := do
  try
    return .link (Path.ofText (← IO.FS.realPath text).toString)
  catch _ => return .link (Path.fromRoot [""])

/-- Reads an entry of a directory with all that lies below it. -/
partial def readEntry (entry : IO.FS.DirEntry) : IO (Option (String × Node)) := do
  let data ← entry.path.symlinkMetadata
  match data.type with
  | .symlink => return some (entry.fileName, ← readLink entry.path.toString)
  | .file => return some (entry.fileName, .file (← IO.FS.readBinFile entry.path).toList)
  | .dir =>
    let entries ← (← entry.path.readDir).toList.filterMapM readEntry
    return some (entry.fileName, .directory entries)
  | .other => return none

/-- Reads what stands at a path without links, with all that lies below it. -/
def readNode (text : String) : IO (Option Node) := do
  let place ← IO.FS.realPath text
  match (← place.metadata).type with
  | .dir => return some (.directory (← (← place.readDir).toList.filterMapM readEntry))
  | .file => return some (.file (← IO.FS.readBinFile place).toList)
  | _ => return none

/-- Puts a node at names below the root; the directories on the way are made. -/
def place (fs : FileSystem) (names : List String) (node : Node) : FileSystem :=
  match fs.makeDirectory (Path.fromRoot names.dropLast) with
  | .ok fs => { fs with root := node.put names fs.root }
  | .error _ => fs

/-- Adds the files that can hold settings in a directory and the ones above it. -/
def addSettingsFiles (fs : FileSystem) (names : List String) : IO FileSystem := do
  let mut fs := fs
  for dir in upward names do
    for name in [settingsFileName, projectFileName] do
      let text := (Path.fromRoot (dir ++ [name])).text
      try
        if let some node ← readNode text then fs := place fs (dir ++ [name]) node
      catch _ => pure ()
  return fs

/-- Adds the links that a path leads through. -/
def addLinks (fs : FileSystem) (p : Path) : IO FileSystem := do
  let mut fs := fs
  for n in List.range p.names.length do
    let way : Path := { p with names := p.names.take (n + 1) }
    try
      let parent ← IO.FS.realPath way.parent.text
      let data ← (parent / p.names.getD n "").symlinkMetadata
      if data.type == .symlink then
        fs := place fs (namesOf parent.toString ++ [p.names.getD n ""]) (← readLink way.text)
    catch _ => pure ()
  return fs

/-- The part of the disk that a check of a path looks at. -/
def readFor (p : Path) : IO FileSystem := do
  let workDir := namesOf (← IO.FS.realPath ".").toString
  let empty : FileSystem := ⟨.directory [], workDir⟩
  let fs := match empty.makeDirectory (Path.fromRoot workDir) with
    | .ok fs => fs
    | .error _ => empty
  try
    let names := namesOf (← IO.FS.realPath p.text).toString
    let fs ← match ← readNode p.text with
      | some node => pure (place fs names node)
      | none => pure fs
    addLinks (← addSettingsFiles fs names) p
  catch _ => addSettingsFiles fs workDir

/-- The console that output goes to: the environment tells its width if that is known. -/
def readHost : IO Command.Host := do
  match (← IO.getEnv "COLUMNS").bind String.toNat? with
  | some width => return { width }
  | none => return {}

end LabelTally.Disk

open LabelTally in
/-- Runs the program. -/
def main (arguments : List String) : IO UInt32 := do
  match Command.Request.read arguments with
  | .error e =>
    (← IO.getStderr).putStr ("Error: " ++ e.message ++ "\n")
    return 2
  | .ok request =>
    let path := match request with
      | .check r => r.path
      | .version => Path.here
    let output := request.run (← Disk.readHost) (← Disk.readFor path)
    (← IO.getStdout).putStr output.stdout
    (← IO.getStderr).putStr output.stderr
    match output.ending with
    | .exit code => return code.toNat.toUInt32
    | .crash reason =>
      (← IO.getStderr).putStr (reason.message ++ "\n")
      return 1
