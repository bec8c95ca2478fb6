import LabelTally.Pattern.Fault
import LabelTally.Pattern.Width
import LabelTally.Text.Letter

/-!
# Tokens of written patterns

A token is a character or a backslash with the character after it. The reader looks one token ahead,
so a backslash at the end is reported as soon as the token before it has been taken.
-/

namespace LabelTally.Pattern

/-- A token of a written pattern. -/
inductive Token
  /-- A character. -/
  | char (c : Char)
  /-- A backslash and a character. -/
  | escape (c : Char)
  /-- A backslash at the end. -/
  | dangling
  deriving Repr, DecidableEq

/-- The characters of a token. -/
def Token.text : Token → String
  | .char c => c.toString
  | .escape c => String.ofList ['\\', c]
  | .dangling => "\\"

/-- The tokens of a written pattern. -/
def tokens : List Char → List Token
  | [] => []
  | ['\\'] => [.dangling]
  | '\\' :: c :: rest => .escape c :: tokens rest
  | c :: rest => .char c :: tokens rest

/-- The flags in force. -/
structure Flags where
  /-- Compare without case. -/
  ignoreCase : Bool := false
  /-- Anchors hold at every line. -/
  multiline : Bool := false
  /-- The point stands for a line feed too. -/
  dotAll : Bool := false
  /-- Blanks and comments are skipped. -/
  verbose : Bool := false
  /-- Kinds are confined to ASCII. -/
  ascii : Bool := false
  deriving Repr, DecidableEq

/-- The fold that flags ask for. -/
def Flags.fold (f : Flags) : Fold :=
  if f.ignoreCase then if f.ascii then .ascii else .full else .exact

/-- The state of the reader. -/
structure ReadState where
  /-- The tokens ahead. -/
  ahead : List Token
  /-- The position of the next token. -/
  pos : Nat
  /-- The length of the written pattern. -/
  size : Nat
  /-- The widths of the groups so far, group zero first; an open group has none yet. -/
  groups : Array (Option Width) := #[none]
  /-- The named groups. -/
  names : List (String × Nat) := []
  /-- The flags in force. -/
  flags : Flags := {}
  /-- Inside a condition on the text before, the number of groups at its start. -/
  behind : Option Nat := none
  /-- The groups that conditions name by number, with the places where they do so first. -/
  conditions : List (Nat × Nat) := []
  /-- The letters of the flags for the whole pattern. -/
  globals : List Char := []

/-- Reading with a state and possible refusal. -/
abbrev Read := StateT ReadState (Except Fault)

/-- Refuses the pattern at a distance before the next token. -/
def refuse {α : Type} (p : Problem) (back : Nat) : Read α := do
  throw ⟨p, some ((← get).pos - back)⟩

/-- Refuses a pattern whose lone backslash has come up. -/
def checkAhead (s : ReadState) : Except Fault Unit :=
  match s.ahead with
  | .dangling :: _ => .error ⟨.escapeAtEnd, some (s.size - 1)⟩
  | _ => .ok ()

/-- The next token. -/
def peek : Read (Option Token) := do return (← get).ahead.head?

/-- Takes the next token. -/
def take : Read (Option Token) := do
  let s ← get
  match s.ahead with
  | [] => return none
  | t :: rest =>
    let s := { s with ahead := rest, pos := s.pos + t.text.length }
    checkAhead s
    set s
    return some t

/-- Takes the next token if it is a given character. -/
def accept (c : Char) : Read Bool := do
  if (← peek) == some (.char c) then
    let _ ← take
    return true
  else return false

/-- Takes up to `n` characters of a kind. -/
def takeWhile (p : Char → Bool) : Nat → Read (List Char)
  | 0 => return []
  | n + 1 => do
    match ← peek with
    | some (.char c) =>
      if p c then
        let _ ← take
        return c :: (← takeWhile p n)
      else return []
    | _ => return []

/-- Takes a name up to its terminator. -/
def takeName (terminator : Char) (what : String) : (fuel : Nat) → String → Read String
  | 0, sofar => return sofar
  | fuel + 1, sofar => do
    match ← take with
    | none =>
      if sofar.isEmpty then refuse (.missingName what) 0
      else refuse (.unterminatedName terminator) sofar.length
    | some t =>
      if t == .char terminator then
        if sofar.isEmpty then refuse (.missingName what) 1 else return sofar
      else takeName terminator what fuel (sofar ++ t.text)

/-- Takes a name up to its terminator, with enough fuel. -/
def name (terminator : Char) (what : String) : Read String := do
  takeName terminator what ((← get).ahead.length + 1) ""

/-- A digit of base sixteen. -/
def isHexDigit (c : Char) : Bool :=
  c.isDigit || ('a' ≤ c && c ≤ 'f') || ('A' ≤ c && c ≤ 'F')

/-- A digit of base eight. -/
def isOctalDigit (c : Char) : Bool := '0' ≤ c && c ≤ '7'

/-- The value of a digit of base sixteen. -/
def hexValue (c : Char) : Nat :=
  if c.isDigit then c.toNat - 48 else if c.isUpper then c.toNat - 55 else c.toNat - 87

/-- The number that digits denote in a base. -/
def digitsValue (base : Nat) (ds : List Char) : Nat :=
  ds.foldl (fun n c => n * base + hexValue c) 0

/-- A group that is closed. -/
def isClosed (s : ReadState) (index : Nat) : Bool := (s.groups[index]?).join.isSome

/-- Refuses references from within a condition on the text before that cannot be resolved. -/
def checkBehind (index : Nat) : Read Unit := do
  let s ← get
  match s.behind with
  | none => return ()
  | some n =>
    if !isClosed s index then refuse .openGroup 0
    else if index ≥ n then refuse .sameBehind 0

end LabelTally.Pattern
