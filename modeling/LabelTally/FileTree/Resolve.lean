import LabelTally.FileTree.FileSystem

/-!
# Resolved paths

The path from the root, without links and double dots, that a path stands for. Parts of the path may
be missing: they are taken as they are. A link that leads back to itself stops the resolution, and
what is left of the path is added without looking at the tree.
-/

namespace LabelTally.FileTree

/-- Why a path cannot be resolved. -/
inductive Unresolved
  /-- A link leads back to itself, as was noticed at a path. -/
  | circle (path : Path)
  /-- A name holds a zero byte. -/
  | zeroByte
  deriving Repr, DecidableEq

/-- The message for a path that cannot be resolved. -/
def Unresolved.message : Unresolved → String
  | .circle path => "Symlink loop from " ++ Text.quote path.text
  | .zeroByte => zeroByteWords

/-- A step of a resolution. -/
inductive Move
  /-- Go on to a name. -/
  | name (name : String)
  /-- The target of the link at these names is resolved. -/
  | resolved (link : List String)
  deriving Repr, DecidableEq

/-- The names that are still to be followed. -/
def Move.names (moves : List Move) : List String :=
  moves.filterMap fun m =>
    match m with
    | .name n => some n
    | .resolved _ => none

/-- Names with every double dot taken back, without looking at a tree. -/
def normalize (names : List String) : List String :=
  names.foldl (fun done n => if n == ".." then done.dropLast else done ++ [n]) []

/-- What is known about links: the names each one resolves to, or none while that is looked for. -/
abbrev Known := List (List String × Option (List String))

namespace FileSystem

/-- Resolves moves from the names reached so far. Each link is replaced once, so `budget` is the
number of links in the tree. -/
def resolveFrom (fs : FileSystem) (budget : Nat) (known : Known) (here : List String)
    (todo : List Move) : List String :=
  match todo with
  | [] => here
  | .resolved link :: rest => fs.resolveFrom budget ((link, some here) :: known) here rest
  | .name name :: rest =>
    if name == ".." then fs.resolveFrom budget known here.dropLast rest
    else
      let there := here ++ [name]
      match fs.root.at? there with
      | some (.link target) =>
        match known.lookup there with
        | some (some found) => fs.resolveFrom budget known found rest
        | some none => normalize (there ++ Move.names rest)
        | none =>
          match budget with
          | 0 => normalize (there ++ Move.names rest)
          | budget + 1 =>
            fs.resolveFrom budget ((there, none) :: known) (if target.absolute then [] else here)
              (target.names.map .name ++ .resolved there :: rest)
      | _ => fs.resolveFrom budget known there rest
termination_by (budget, todo.length)

/-- The path from the root that a path stands for. -/
def resolve (fs : FileSystem) (p : Path) : Except Unresolved Path :=
  if p.hasZero then .error .zeroByte
  else
    let found := Path.fromRoot
      (fs.resolveFrom fs.root.linkCount [] (fs.startOf p) (p.names.map .name))
    match fs.locate found with
    | .error .tooManyLinks => .error (.circle found)
    | _ => .ok found

/-- What a path adds to a base directory, both resolved, if it lies below. -/
def resolvedBelow? (fs : FileSystem) (p base : Path) : Except Unresolved (Option Path) := do
  let full ← fs.resolve p
  let fullBase ← fs.resolve base
  return full.relativeTo? fullBase

/-- A path as it is shown: what it adds to a base directory if it lies below, else as it is. -/
def display (fs : FileSystem) (p base : Path) : Except Unresolved String :=
  match fs.resolvedBelow? p base with
  | .ok (some rest) => .ok rest.text
  | .ok none | .error .zeroByte => .ok p.text
  | .error e => .error e

end FileSystem

end LabelTally.FileTree
