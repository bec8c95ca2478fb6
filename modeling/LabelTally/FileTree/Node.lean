import LabelTally.FileTree.Path

/-!
# Nodes of a file tree

A node is a file, a symbolic link or a directory of named nodes.
-/

namespace LabelTally.FileTree

/-- A node of a file tree. -/
inductive Node
  /-- A file with its bytes. -/
  | file (content : List UInt8)
  /-- A symbolic link with the path it holds. -/
  | link (target : Path)
  /-- A directory with its entries. -/
  | directory (entries : List (String × Node))
  deriving Inhabited

/-- Named nodes. -/
abbrev Entries := List (String × Node)

namespace Node

/-- The node of a name in a directory. -/
def child? (n : Node) (name : String) : Option Node :=
  match n with
  | .directory entries => entries.lookup name
  | _ => none

/-- The node that names lead to; links are not followed. -/
def at? : Node → List String → Option Node
  | n, [] => some n
  | n, name :: rest =>
    match n.child? name with
    | some c => c.at? rest
    | none => none

/-- Entries with one of them set; a new one comes last. -/
def setEntry (entries : Entries) (name : String) (node : Node) : Entries :=
  match entries with
  | [] => [(name, node)]
  | e :: rest => if e.1 == name then (name, node) :: rest else e :: setEntry rest name node

/-- The tree with a node put where names lead. -/
def put (new : Node) : List String → Node → Node
  | [], _ => new
  | name :: rest, .directory entries =>
    let old := (entries.lookup name).getD (.directory [])
    .directory (setEntry entries name (put new rest old))
  | _ :: _, n => n

/-- The tree without the node that names lead to. -/
def erase : List String → Node → Node
  | [], n => n
  | [name], .directory entries => .directory (entries.filter fun e => e.1 != name)
  | name :: rest, .directory entries =>
    match entries.lookup name with
    | some c => .directory (setEntry entries name (erase rest c))
    | none => .directory entries
  | _, n => n

mutual

/-- The number of links in a tree. -/
def linkCount : Node → Nat
  | .file _ => 0
  | .link _ => 1
  | .directory entries => linkCounts entries

/-- The number of links below entries. -/
def linkCounts : Entries → Nat
  | [] => 0
  | (_, n) :: rest => n.linkCount + linkCounts rest

end

end Node

end LabelTally.FileTree
