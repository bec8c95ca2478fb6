/-!
# Globs

One segment of an ignore rule: `*` stands for any characters except a slash, `?` for one such
character, brackets for a class, and a backslash takes away the meaning of the character after it.
-/

namespace LabelTally.Ignore

/-- A part of a glob. -/
inductive GlobPart
  /-- Any characters except a slash. -/
  | stretch
  /-- One character except a slash. -/
  | single
  /-- A character. -/
  | literal (c : Char)
  /-- A class, written as in a pattern. -/
  | oneOf (written : List Char)
  deriving Repr, DecidableEq

/-- Why a glob has no meaning. -/
inductive GlobTrouble
  /-- A backslash ends it. -/
  | danglingEscape
  /-- A bracket is not closed. -/
  | unclosedClass
  deriving Repr, DecidableEq

/-- The content of a class and what follows its closing bracket; a bracket at the very start of the
content is a member. -/
def splitClass (cs : List Char) : Option (List Char × List Char) :=
  let (first, rest) := match cs with
    | ']' :: rest => ([']'], rest)
    | _ => ([], cs)
  let content := rest.takeWhile (· != ']')
  match rest.drop content.length with
  | [] => none
  | _ :: after => some (first ++ content, after)

/-- The written form of a class: a backslash is a member like any other. -/
def writeClass (negated : Bool) (content : List Char) : List Char :=
  '[' :: (if negated then ['^'] else []) ++
    content.flatMap (fun c => if c == '\\' then ['\\', '\\'] else [c]) ++ [']']

/-- Reads a glob; `fuel` bounds the number of its parts. -/
def readParts : (fuel : Nat) → List Char → Except GlobTrouble (List GlobPart)
  | 0, _ => .ok []
  | _, [] => .ok []
  | fuel + 1, c :: rest =>
    if c == '\\' then
      match rest with
      | [] => .error .danglingEscape
      | d :: rest => (readParts fuel rest).map (.literal d :: ·)
    else if c == '*' then (readParts fuel rest).map (.stretch :: ·)
    else if c == '?' then (readParts fuel rest).map (.single :: ·)
    else if c == '[' then
      let negated := rest.head? == some '!' || rest.head? == some '^'
      match splitClass (if negated then rest.drop 1 else rest) with
      | none => .error .unclosedClass
      | some (content, after) =>
        (readParts fuel after).map (.oneOf (writeClass negated content) :: ·)
    else (readParts fuel rest).map (.literal c :: ·)

/-- Reads a glob. -/
def readGlob (cs : List Char) : Except GlobTrouble (List GlobPart) := readParts cs.length cs

/-- A character that is written with a backslash in a pattern. -/
def isPatternSpecial (c : Char) : Bool :=
  "()[]\x7b\x7d?*+-|^$\\.&~# \t\n\r\x0b\x0c".toList.contains c

/-- A part of a glob as a pattern is written. -/
def GlobPart.written : GlobPart → List Char
  | .stretch => "[^/]*".toList
  | .single => "[^/]".toList
  | .literal c => if isPatternSpecial c then ['\\', c] else [c]
  | .oneOf written => written

/-- A glob as a pattern is written. -/
def writeGlob (parts : List GlobPart) : List Char := parts.flatMap GlobPart.written

end LabelTally.Ignore
