import LabelTally.Comment.Scan
import LabelTally.Text.Quoted
import LabelTally.FileTree.Path

/-!
# Collections

The matches of a whole tree, file by file, and the views of them that the rules work on: the valid
ones, the invalid ones, and the valid ones grouped by label. All views keep the order of the scan.
-/

namespace LabelTally

open Comment (Args Match)

/-- A file that was scanned. -/
structure ScannedFile where
  /-- The path of the file. -/
  path : Path
  /-- The matches found in it. -/
  found : List Match
  /-- The bytes that the matches were read from, where they are kept. -/
  content : Option (List UInt8)
  deriving Repr, DecidableEq

/-- The short description of a scanned file. -/
def ScannedFile.describe (f : ScannedFile) : String :=
  "FileMatches(" ++ Text.quote f.path.text ++ ", " ++ toString f.found.length ++ " matches)"

/-- The files of one scan. -/
structure Collection where
  /-- The files in the order of the scan. -/
  files : List ScannedFile := []
  deriving Repr, DecidableEq

/-- A valid match and where it was found. -/
structure Mention where
  /-- The path of its file. -/
  path : Path
  /-- The index of its file. -/
  fileIndex : Nat
  /-- Its index in the file. -/
  matchIndex : Nat
  /-- The match. -/
  found : Match
  /-- Its arguments. -/
  args : Args
  deriving Repr, DecidableEq

/-- The label that a valid match carries. -/
def Mention.label (m : Mention) : String := m.args.label.value

/-- An invalid match and where it was found. -/
structure InvalidMention where
  /-- The path of its file. -/
  path : Path
  /-- The index of its file. -/
  fileIndex : Nat
  /-- Its index in the file. -/
  matchIndex : Nat
  /-- The match. -/
  found : Match
  deriving Repr, DecidableEq

/-- Groups with one more member: at the end of the group of its label, or as a new last group. -/
def addToGroups (groups : List (String × List Mention)) (m : Mention) :
    List (String × List Mention) :=
  match groups with
  | [] => [(m.label, [m])]
  | g :: rest =>
    if g.1 == m.label then (g.1, g.2 ++ [m]) :: rest else g :: addToGroups rest m

namespace Collection

/-- The short description of a collection. -/
def describe (c : Collection) : String := "Matches(" ++ toString c.files.length ++ " files)"

/-- The number of matches. -/
def total (c : Collection) : Nat := (c.files.flatMap (·.found)).length

/-- The valid matches. -/
def mentions (c : Collection) : List Mention :=
  c.files.zipIdx.flatMap fun (f, i) =>
    f.found.zipIdx.filterMap fun (m, j) => m.args?.map fun a => ⟨f.path, i, j, m, a⟩

/-- The invalid matches. -/
def invalid (c : Collection) : List InvalidMention :=
  c.files.zipIdx.flatMap fun (f, i) =>
    f.found.zipIdx.filterMap fun (m, j) => if m.isValid then none else some ⟨f.path, i, j, m⟩

/-- The valid matches grouped by label; groups stand in the order of their first members. -/
def groups (c : Collection) : List (String × List Mention) := c.mentions.foldl addToGroups []

/-- The group of a label, empty for one that is not in use. -/
def group (c : Collection) (label : String) : List Mention := (c.groups.lookup label).getD []

end Collection

end LabelTally
