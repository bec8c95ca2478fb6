import LabelTally.Ignore.Glob
import LabelTally.Pattern.Reader
import LabelTally.Pattern.Run
import LabelTally.Text.Quoted

/-!
# Ignore rules

A line of an ignore file is a rule, a comment or blank. A rule is a path pattern of segments between
slashes, where the segment `**` stands for any number of directories; an exclamation mark in front
makes it take back what earlier rules left out. A match that ends at a slash of the path covers the
path only as part of a directory, which counts for less than a match of the path itself.
-/

namespace LabelTally.Ignore

open Pattern (Fault)

/-- Why a line is refused. -/
inductive RuleFault
  /-- The line names no path, or ends in a lone backslash. -/
  | noPath (line : String)
  /-- The expression that the line stands for is not well formed. -/
  | badClass (expression : String) (fault : Fault)
  deriving Repr, DecidableEq

/-- The words for a refused line. -/
def RuleFault.message : RuleFault → String
  | .noPath line => "Invalid git pattern: " ++ Text.quote line
  | .badClass expression fault => fault.message expression

/-- A rule. -/
structure Rule where
  /-- The rule takes back what earlier rules left out. -/
  reinclude : Bool
  /-- What a path must hold; group one marks the slash after a directory. -/
  pattern : Pattern
  deriving Repr

/-- A segment of a rule. -/
inductive Segment
  /-- Any number of directories. -/
  | anyDepth
  /-- One name. -/
  | name (written : List Char)
  deriving Repr, DecidableEq

/-- A text cut at every slash. -/
def splitSlash : List Char → List (List Char)
  | [] => [[]]
  | c :: rest =>
    if c == '/' then [] :: splitSlash rest
    else
      match splitSlash rest with
      | [] => [[c]]
      | s :: ss => (c :: s) :: ss

/-- The segment of a text. -/
def Segment.ofText (cs : List Char) : Segment := if cs = ['*', '*'] then .anyDepth else .name cs

/-- Neighbouring segments for any depth are one. -/
def collapse : List Segment → List Segment
  | .anyDepth :: .anyDepth :: rest => collapse (.anyDepth :: rest)
  | s :: rest => s :: collapse rest
  | [] => []

/-- The segments of a rule. A leading slash ties it to the root and is dropped; a rule of one
segment without it holds at any depth; a trailing slash stands for everything below. -/
def segments (texts : List (List Char)) : List Segment :=
  let anchored := match texts with
    | [] :: rest => rest
    | [s] => if s = ['*', '*'] then [s] else [['*', '*'], s]
    | [s, []] => if s = ['*', '*'] then [s, []] else [['*', '*'], s, []]
    | _ => texts
  let open_ := match anchored.getLast? with
    | some [] => anchored.dropLast ++ [['*', '*']]
    | _ => anchored
  collapse (open_.map Segment.ofText)

/-- A slash that ends a directory of the path. -/
def directoryMark (isDirectory : Bool) : List Char :=
  if isDirectory then "(?P<ps_d>/)".toList else ['/']

/-- The segments in a form that knows their globs, or why they have none. -/
def readSegments : List Segment → Except GlobTrouble (List (Option (List GlobPart)))
  | [] => .ok []
  | .anyDepth :: rest => (readSegments rest).map (none :: ·)
  | .name written :: rest => do
    let parts ← readGlob written
    return some parts :: (← readSegments rest)

/-- The expression of segments from one of them on. `first` holds for the first one, `slash` when
one is needed before a name. -/
def writeSegments (isDirectory : Bool) (first slash : Bool) :
    List (Option (List GlobPart)) → List Char
  | [] => []
  | none :: rest =>
    if first then "^(?:.+/)?".toList ++ writeSegments isDirectory false slash rest
    else if rest.isEmpty then directoryMark isDirectory
    else "(?:/.+)?".toList ++ writeSegments isDirectory false true rest
  | some parts :: rest =>
    (if first then ['^'] else []) ++ (if slash then ['/'] else []) ++
      (if parts == [.stretch] then "[^/]+".toList else writeGlob parts) ++
      (if rest.isEmpty then "(?:(?P<ps_d>/)|$)".toList
       else writeSegments isDirectory false true rest)

/-- The expression of a whole rule. Rules for every name, and for every directory, are told apart.
-/
def writeRule (isDirectory : Bool) (segs : List (Option (List GlobPart))) : List Char :=
  let star := some [GlobPart.stretch]
  if segs == [none] then if isDirectory then directoryMark true else ['.']
  else if segs == [none, star] then ['.']
  else if segs == [none, star, none] then directoryMark isDirectory
  else writeSegments isDirectory true false segs

/-- Trailing blanks are dropped, unless the line ends in a backslash and a space. -/
def trimLine (line : List Char) : List Char :=
  if ['\\', ' '].isSuffixOf line then line else Text.trimRight line

/-- The rule of a line. Blank lines, comments, a lone slash and lines with an open bracket have
none. -/
def Rule.ofLine (line : String) : Except RuleFault (Option Rule) :=
  let cs := trimLine line.toList
  if cs.isEmpty || cs.head? == some '#' || cs == ['/'] then .ok none
  else
    let reinclude := cs.head? == some '!'
    let texts := splitSlash (if reinclude then cs.drop 1 else cs)
    let isDirectory := texts.getLast? == some []
    let segs := segments texts
    if segs.isEmpty then .error (.noPath line)
    else
      match readSegments segs with
      | .error .danglingEscape => .error (.noPath line)
      | .error .unclosedClass => .ok none
      | .ok parts =>
        let expression := String.ofList (writeRule isDirectory parts)
        match Pattern.parse expression with
        | .error f => .error (.badClass expression f)
        | .ok pattern => .ok (some ⟨reinclude, pattern⟩)

/-- How much a rule's match of a path counts: nothing, as part of a directory, or as the path. -/
def Rule.weight (r : Rule) (path : Array Char) : Nat :=
  match r.pattern.search path with
  | none => 0
  | some s => if (s.kept 1).isSome then 1 else 2

end LabelTally.Ignore
