import LabelTally.Text.Quoted
import LabelTally.FileTree.Node

/-!
# File systems

A file tree with a working directory. A path is followed name by name; a double dot leads to the
parent of the directory reached so far, and a symbolic link is replaced by the path it holds, at
most forty times.
-/

namespace LabelTally.FileTree

/-- A file tree and the names that lead to the working directory. -/
structure FileSystem where
  /-- The root of the tree. -/
  root : Node
  /-- The working directory, below the root, without links on the way. -/
  workDir : List String
  deriving Inhabited

/-- Why a path cannot be used. -/
inductive Problem
  /-- Nothing is there. -/
  | missing
  /-- A name is looked up in something that is no directory. -/
  | notDirectory
  /-- A directory stands where a file is needed. -/
  | isDirectory
  /-- More links are met than are followed. -/
  | tooManyLinks
  /-- A name holds a zero byte. -/
  | zeroByte
  deriving Repr, DecidableEq

/-- The words for a name with a zero byte. -/
def zeroByteWords : String := "embedded null byte"

/-- The number and the words of a problem. -/
def Problem.words : Problem → String
  | .missing => "[Errno 2] No such file or directory"
  | .notDirectory => "[Errno 20] Not a directory"
  | .isDirectory => "[Errno 21] Is a directory"
  | .tooManyLinks => "[Errno 40] Too many levels of symbolic links"
  | .zeroByte => zeroByteWords

/-- A path that cannot be used. -/
structure Fault where
  /-- The reason. -/
  problem : Problem
  /-- The path. -/
  path : Path
  deriving Repr, DecidableEq

/-- The message for a path that cannot be used. One with a zero byte is not shown. -/
def Fault.message (f : Fault) : String :=
  if f.problem = .zeroByte then f.problem.words
  else f.problem.words ++ ": " ++ Text.quote f.path.text

/-- Where a path leads. -/
structure Place where
  /-- The names from the root, without links on the way. -/
  names : List String
  /-- What is there; none if only the last name is missing. -/
  node : Option Node

/-- The number of links that are followed on one way. -/
def linkLimit : Nat := 40

namespace FileSystem

/-- Follows names from a directory. `follow` holds if a link in the last place is followed too. -/
def goFrom (fs : FileSystem) (follow : Bool) (budget : Nat) (here todo : List String) :
    Except Problem Place :=
  match todo with
  | [] => .ok ⟨here, fs.root.at? here⟩
  | name :: rest =>
    match fs.root.at? here with
    | none => .error .missing
    | some (.directory entries) =>
      if name == ".." then fs.goFrom follow budget here.dropLast rest
      else
        match entries.lookup name with
        | none => if rest.isEmpty then .ok ⟨here ++ [name], none⟩ else .error .missing
        | some (.link target) =>
          if rest.isEmpty && !follow then .ok ⟨here ++ [name], some (.link target)⟩
          else
            match budget with
            | 0 => .error .tooManyLinks
            | budget + 1 =>
              fs.goFrom follow budget (if target.absolute then [] else here) (target.names ++ rest)
        | some _ => fs.goFrom follow budget (here ++ [name]) rest
    | some _ => .error .notDirectory
termination_by (budget, todo.length)

/-- The directory from which a path is followed. -/
def startOf (fs : FileSystem) (p : Path) : List String := if p.absolute then [] else fs.workDir

/-- Where a path leads, links followed. -/
def locate (fs : FileSystem) (p : Path) : Except Problem Place :=
  if p.hasZero then .error .zeroByte
  else fs.goFrom true linkLimit (fs.startOf p) p.names

/-- What a path leads to. -/
def node (fs : FileSystem) (p : Path) : Except Problem Node :=
  match fs.locate p with
  | .error e => .error e
  | .ok ⟨_, none⟩ => .error .missing
  | .ok ⟨_, some n⟩ => .ok n

/-- The path leads to a file. -/
def isFile (fs : FileSystem) (p : Path) : Bool :=
  match fs.node p with
  | .ok (.file _) => true
  | _ => false

/-- The path leads to a directory. -/
def isDirectory (fs : FileSystem) (p : Path) : Bool :=
  match fs.node p with
  | .ok (.directory _) => true
  | _ => false

/-- The path leads to something. -/
def contains (fs : FileSystem) (p : Path) : Bool :=
  match fs.node p with
  | .ok _ => true
  | _ => false

/-- The bytes of a file. -/
def read (fs : FileSystem) (p : Path) : Except Fault (List UInt8) :=
  match fs.node p with
  | .ok (.file content) => .ok content
  | .ok _ => .error ⟨.isDirectory, p⟩
  | .error e => .error ⟨e, p⟩

/-- The names from the root to a directory, and its entries. -/
def list (fs : FileSystem) (p : Path) : Except Fault (List String × Entries) :=
  match fs.locate p with
  | .ok ⟨names, some (.directory entries)⟩ => .ok (names, entries)
  | .ok ⟨_, some _⟩ => .error ⟨.notDirectory, p⟩
  | .ok ⟨_, none⟩ => .error ⟨.missing, p⟩
  | .error e => .error ⟨e, p⟩

/-- Makes the directories on a way that are missing; the result also tells where the way ends. -/
def makeWay (fs : FileSystem) (here : List String) :
    List String → Except Problem (FileSystem × List String)
  | [] => .ok (fs, here)
  | name :: rest =>
    match fs.goFrom true linkLimit here [name] with
    | .error e => .error e
    | .ok ⟨names, some (.directory _)⟩ => fs.makeWay names rest
    | .ok ⟨_, some _⟩ => .error .notDirectory
    | .ok ⟨names, none⟩ =>
      { fs with root := (Node.directory []).put names fs.root }.makeWay names rest

/-- Makes a directory and what is missing on the way to it. -/
def makeDirectory (fs : FileSystem) (p : Path) : Except Fault FileSystem :=
  if p.hasZero then .error ⟨.zeroByte, p⟩
  else match fs.makeWay (fs.startOf p) p.names with
  | .ok (fs, _) => .ok fs
  | .error e => .error ⟨e, p⟩

/-- Writes a file, or puts a link, where a path leads; missing directories are made. -/
def write (fs : FileSystem) (p : Path) (new : Node) : Except Fault FileSystem :=
  if p.hasZero then .error ⟨.zeroByte, p⟩
  else match p.names.getLast? with
  | none => .error ⟨.isDirectory, p⟩
  | some name =>
    match fs.makeWay (fs.startOf p) p.names.dropLast with
    | .error e => .error ⟨e, p⟩
    | .ok (fs, here) =>
      match fs.goFrom true linkLimit here [name] with
      | .error e => .error ⟨e, p⟩
      | .ok ⟨_, some (.directory _)⟩ => .error ⟨.isDirectory, p⟩
      | .ok ⟨names, _⟩ => .ok { fs with root := new.put names fs.root }

/-- Removes a file or a link. -/
def remove (fs : FileSystem) (p : Path) : Except Fault FileSystem :=
  if p.hasZero then .error ⟨.zeroByte, p⟩
  else match fs.goFrom false linkLimit (fs.startOf p) p.names with
  | .error e => .error ⟨e, p⟩
  | .ok ⟨_, none⟩ => .error ⟨.missing, p⟩
  | .ok ⟨_, some (.directory _)⟩ => .error ⟨.isDirectory, p⟩
  | .ok ⟨names, some _⟩ => .ok { fs with root := fs.root.erase names }

end FileSystem

end LabelTally.FileTree
