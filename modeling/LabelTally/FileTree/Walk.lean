import LabelTally.Ignore.Filter
import LabelTally.Text.Lines
import LabelTally.Text.Utf8
import LabelTally.FileTree.FileSystem

/-!
# Walking a tree

A walk meets the files below a directory in a fixed order: in each directory first the files and
then the directories, both by name. Directories with the data of version control, ignored
directories and ignored files are left out, and symbolic links are never followed.
-/

namespace LabelTally.FileTree

/-- What a walk meets. -/
inductive Step
  /-- A directory that is left out, with the names below the start. -/
  | skipped (names : List String)
  /-- A file, with the names below the start and its bytes. -/
  | file (names : List String) (content : List UInt8)
  deriving Repr, DecidableEq

/-- What a walk has to know about names below its start. -/
structure View where
  /-- The link at these names leads to a directory. -/
  linksToDirectory : List String → Bool
  /-- What stands at these names is ignored; true is for a directory. -/
  ignored : List String → Bool → Bool

/-- Directories that are always left out. -/
def metadataNames : List String := [".git", ".hg", ".svn"]

/-- The directory `name` at these names is left out. -/
def View.leavesOut (v : View) (names : List String) (name : String) : Bool :=
  metadataNames.contains name || v.ignored names true

/-- What becomes of an entry of a directory. -/
inductive Branch
  /-- A directory that is left out. -/
  | skipped
  /-- A file that is met. -/
  | file (content : List UInt8)
  /-- A directory that is entered, with what is met below. -/
  | entered (steps : List Step)
  /-- Anything else. -/
  | passed
  deriving Repr, DecidableEq

/-- Entries in the order of their names. -/
def sortByName {α : Type} (entries : List (String × α)) : List (String × α) :=
  entries.mergeSort fun a b => decide (a.1 ≤ b.1)

/-- What is met in a directory: what is left out, then the files, then what is below. -/
def assemble (names : List String) (branches : List (String × Branch)) : List Step :=
  let sorted := sortByName branches
  let skips := sorted.filterMap fun b =>
    match b.2 with
    | .skipped => some (Step.skipped (names ++ [b.1]))
    | _ => none
  let files := sorted.filterMap fun b =>
    match b.2 with
    | .file content => some (Step.file (names ++ [b.1]) content)
    | _ => none
  let deeper := sorted.flatMap fun b =>
    match b.2 with
    | .entered steps => steps
    | _ => []
  skips ++ files ++ deeper

mutual

/-- What becomes of an entry. -/
def Node.branch (v : View) (names : List String) (name : String) : Node → Branch
  | .file content => if v.ignored names false then .passed else .file content
  | .link _ => if v.linksToDirectory names && v.leavesOut names name then .skipped else .passed
  | .directory entries =>
    if v.leavesOut names name then .skipped
    else .entered (assemble names (Node.branches v names entries))

/-- What becomes of the entries of a directory. -/
def Node.branches (v : View) (names : List String) : Entries → List (String × Branch)
  | [] => []
  | (name, n) :: rest => (name, n.branch v (names ++ [name]) name) :: Node.branches v names rest

end

/-- What a walk over the entries of its start meets. -/
def walkEntries (v : View) (entries : Entries) : List Step :=
  assemble [] (Node.branches v [] entries)

/-- The names of files with ignore rules, weaker ones first. -/
def ruleFileNames : List String := [".gitignore", ".ignore"]

/-- The files with ignore rules in a directory, and their lines. -/
def FileSystem.ruleFiles (fs : FileSystem) (root : Path) : List (Path × List String) :=
  ruleFileNames.filterMap fun name =>
    let p := root.below [name]
    match fs.node p with
    | .ok (.file content) =>
      some (p, (Text.textLines (Text.Utf8.decode content)).map String.ofList)
    | _ => none

/-- Which files a walk leaves out. -/
structure WalkOptions where
  /-- The files with ignore rules at the start are heeded. -/
  heedRuleFiles : Bool := true
  /-- Further rules. -/
  exclude : List String := []
  deriving Repr, DecidableEq

/-- Why there is no walk. -/
inductive WalkFault
  /-- A rule is refused. -/
  | rule (fault : Ignore.RuleFault)
  /-- The start cannot be listed. -/
  | start (fault : Fault)
  deriving Repr, DecidableEq

/-- A walk: the files whose rules it heeds, and what it meets. -/
structure Walk where
  /-- The files with rules that were read. -/
  ruleFiles : List Path
  /-- What is met, or why nothing is. -/
  steps : Except WalkFault (List Step)

/-- What the walk of a file system knows about names below the directory at `start`. -/
def FileSystem.view (fs : FileSystem) (start : List String) (filter : Ignore.Filter) : View where
  linksToDirectory names :=
    match fs.goFrom true linkLimit start names with
    | .ok ⟨_, some (.directory _)⟩ => true
    | _ => false
  ignored names isDirectory := filter.ignores (Path.joinNames names) isDirectory

/-- Walks from a path. A file is met as such, without any rules. -/
def FileSystem.walk (fs : FileSystem) (root : Path) (o : WalkOptions) : Walk :=
  match fs.node root with
  | .ok (.file content) => ⟨[], .ok [.file [] content]⟩
  | _ =>
    let found := if o.heedRuleFiles then fs.ruleFiles root else []
    let steps := do
      let lines := found.flatMap (·.2) ++ o.exclude
      let filter ← (Ignore.Filter.ofLines lines).mapError WalkFault.rule
      let (start, entries) ← (fs.list root).mapError WalkFault.start
      return walkEntries (fs.view start filter) entries
    ⟨found.map (·.1), steps⟩

end LabelTally.FileTree
