/-!
# Paths

A path is a list of names, read from the root of the tree or from the working directory. Empty names
and single dots are dropped when a path is read; double dots are kept. Two slashes at the start, and
not more, are kept as well, though they lead to the same root.
-/

namespace LabelTally

/-- Where a path starts. -/
inductive PathStart
  /-- In the working directory. -/
  | workDir
  /-- At the root. -/
  | root
  /-- At the root, written with two slashes. -/
  | doubleRoot
  deriving Repr, DecidableEq, Inhabited

/-- A path. -/
structure Path where
  /-- Where it starts. -/
  start : PathStart
  /-- The names to follow. -/
  names : List String
  deriving Repr, DecidableEq, Inhabited

namespace Path

/-- The path without names, which is the working directory. -/
def here : Path := ⟨.workDir, []⟩

/-- The path of a text. -/
def ofText (s : String) : Path :=
  let start :=
    if !s.startsWith "/" then PathStart.workDir
    else if s.startsWith "//" && !s.startsWith "///" then .doubleRoot
    else .root
  ⟨start, (s.splitOn "/").filter fun n => n != "" && n != "."⟩

/-- The path of names below the root. -/
def fromRoot (names : List String) : Path := ⟨.root, names⟩

/-- The path starts at the root. -/
def absolute (p : Path) : Bool := p.start != .workDir

/-- A name of the path holds a zero byte, which no name in a tree does. -/
def hasZero (p : Path) : Bool := p.names.any fun n => n.toList.contains '\x00'

/-- Names joined by slashes. -/
def joinNames (names : List String) : String := "/".intercalate names

/-- The text of a path; the path without names is a dot. -/
def text (p : Path) : String :=
  match p.start with
  | .workDir => if p.names.isEmpty then "." else joinNames p.names
  | .root => "/" ++ joinNames p.names
  | .doubleRoot => "//" ++ joinNames p.names

/-- The path to something below a path. -/
def below (p : Path) (names : List String) : Path := { p with names := p.names ++ names }

/-- The path without its last name. -/
def parent (p : Path) : Path := { p with names := p.names.dropLast }

/-- What a path adds to another one that it starts with. -/
def relativeTo? (p base : Path) : Option Path :=
  if p.start == base.start && base.names.isPrefixOf p.names then
    some ⟨.workDir, p.names.drop base.names.length⟩
  else none

end Path

end LabelTally
