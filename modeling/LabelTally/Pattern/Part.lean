import LabelTally.Decimal.Integer
import LabelTally.Pattern.Escape

/-!
# Parts of written patterns

What stands between the alternatives and groups of a pattern: repetitions, comments, flags and the
openings of groups.
-/

namespace LabelTally.Pattern

/-- What a part of a sequence is, as far as repetition asks. -/
inductive PartKind
  /-- A part that can be repeated. -/
  | plain
  /-- A condition on the position. -/
  | anchor
  /-- A repetition. -/
  | repetition
  deriving Repr, DecidableEq

/-- A part of a sequence: a step, or the steps of a group that only holds them together. -/
abbrev Part := PartKind × List Step

/-- A literal under flags. -/
def literalPart (flags : Flags) (code : Nat) : Part := (.plain, [.one (.literal flags.fold code)])

/-- The part that an escape stands for. -/
def Escape.part (flags : Flags) : Escape → Part
  | .code n => literalPart flags n
  | .kind k negated =>
    (.plain, [.one (.oneOf { fold := flags.fold, items := [.kind k negated flags.ascii] })])
  | .anchor a => (.anchor, [.anchor a])
  | .reference index => (.plain, [.back flags.fold index])

/-- Reads bounds in braces after the opening one: digits, or digits, a comma and digits, and the
closing brace. Anything else is none, and nothing is taken. -/
def readBraces : Read (Option (List Char × List Char)) := do
  let saved ← get
  if (← peek) == some (.char '\x7d') then return none
  let fuel := saved.ahead.length
  let low ← takeWhile Char.isDigit fuel
  let high ← if ← accept ',' then takeWhile Char.isDigit fuel else pure low
  if ← accept '\x7d' then return some (low, high)
  else
    set saved
    return none

/-- Reads a number of rounds. -/
def readRounds (digits : List Char) : Read Nat :=
  match Decimal.readDigits digits with
  | .error e => throw ⟨.longNumber e.digits, none⟩
  | .ok n => if n ≥ roundLimit then throw ⟨.repeatTooLarge, none⟩ else return n

/-- Reads how a repetition tries its numbers of rounds, from at most one character. -/
def readGreed : Read Greed := do
  if ← accept '?' then return .lazy
  if ← accept '+' then return .possessive
  return .greedy

/-- Reads a repetition after its first character and applies it to the last part. An opening brace
that starts no bounds stands for itself. -/
def readRepetition (c : Char) (parts : List Part) : Read (List Part) := do
  let here := (← get).pos
  let bounds ←
    if c == '\x7b' then do
      match ← readBraces with
      | none => pure none
      | some (low, high) =>
        let least ← readRounds low
        let most ← if high.isEmpty then pure none else some <$> readRounds high
        if most.any (· < least) then throw ⟨.repeatBounds, some here⟩
        else pure (some (least, most))
    else if c == '?' then pure (some (0, some 1))
    else if c == '*' then pure (some (0, none))
    else pure (some (1, none))
  match bounds with
  | none => return literalPart (← get).flags c.toNat :: parts
  | some (least, most) =>
    match parts with
    | (.plain, body) :: rest =>
      return (.repetition, [.many (← readGreed) least most body]) :: rest
    | (.repetition, _) :: _ => throw ⟨.multipleRepeat, some (here - 1)⟩
    | _ => throw ⟨.nothingToRepeat, some (here - 1)⟩

/-- Skips a comment up to the end of its line. -/
def skipLine : (fuel : Nat) → Read Unit
  | 0 => return ()
  | fuel + 1 => do
    match ← take with
    | none => return ()
    | some t => if t == .char '\n' then return () else skipLine fuel

/-- Skips a comment in parentheses that starts at `start`. -/
def skipComment (start : Nat) : (fuel : Nat) → Read Unit
  | 0 => return ()
  | fuel + 1 => do
    match ← peek with
    | none => throw ⟨.unterminatedComment, some start⟩
    | some t =>
      let _ ← take
      if t == .char ')' then return () else skipComment start fuel

/-- The letters that stand for flags. -/
def isFlag (c : Char) : Bool := "iLmsxatu".toList.contains c

/-- A flag that says which characters belong to a kind. -/
def isTypeFlag (c : Char) : Bool := c == 'a' || c == 'u' || c == 'L'

/-- Refuses a character where a flag is expected. -/
def refuseFlag {α : Type} (t : Token) (what : String) : Read α :=
  let isLetter := match t with
    | .char c => Text.isAlphabetic c
    | _ => false
  refuse (if isLetter then .unknownFlag else .missingAmongFlags what) t.text.length

/-- Reads flags that are turned on, the first being `c`, up to the character that ends them. -/
def readOn : (fuel : Nat) → Char → List Char → Read (List Char × Char)
  | 0, _, sofar => return (sofar, ')')
  | fuel + 1, c, sofar => do
    if c == 'L' then refuse .localeFlag 0
    else if isTypeFlag c && sofar.any (fun d => isTypeFlag d && d != c) then
      refuse .incompatibleFlags 0
    else
      let sofar := sofar ++ [c]
      match ← take with
      | none => refuse (.missingAmongFlags "-, : or )") 0
      | some (.char d) =>
        if d == ')' || d == '-' || d == ':' then return (sofar, d)
        else if isFlag d then readOn fuel d sofar
        else refuseFlag (.char d) "-, : or )"
      | some t => refuseFlag t "-, : or )"

/-- Reads flags that are turned off, the first being `c`, up to the colon that ends them. -/
def readOff : (fuel : Nat) → Char → List Char → Read (List Char)
  | 0, _, sofar => return sofar
  | fuel + 1, c, sofar => do
    if isTypeFlag c then refuse .fixedFlag 0
    else
      let sofar := sofar ++ [c]
      match ← take with
      | none => refuse (.missingAmongFlags ":") 0
      | some (.char d) =>
        if d == ':' then return sofar
        else if isFlag d then readOff fuel d sofar
        else refuseFlag (.char d) ":"
      | some t => refuseFlag t ":"

/-- Flags with some turned on and some turned off. -/
def Flags.change (f : Flags) (on off : List Char) : Flags :=
  let value (c : Char) (old : Bool) := (old || on.contains c) && !off.contains c
  { ignoreCase := value 'i' f.ignoreCase
    multiline := value 'm' f.multiline
    dotAll := value 's' f.dotAll
    verbose := value 'x' f.verbose
    ascii := (f.ascii || on.contains 'a') && !on.contains 'u' }

/-- Reads the flags of a group: those for the whole pattern are none, others are turned on and off.
-/
def readFlags (c : Char) : Read (Option (List Char × List Char)) := do
  let fuel := (← get).ahead.length + 1
  let (on, last) ← if c == '-' then pure ([], '-') else readOn fuel c []
  if last == ')' then
    modify fun s => { s with flags := s.flags.change on [], globals := s.globals ++ on }
    return none
  else if on.contains 't' then refuse (.globalFlag "on") 1
  else
    let off ←
      if last == '-' then do
        match ← take with
        | none => refuse (.missingAmongFlags "flag") 0
        | some (.char d) =>
          if isFlag d then readOff fuel d [] else refuseFlag (.char d) "flag"
        | some t => refuseFlag t "flag"
      else pure []
    if off.contains 't' then refuse (.globalFlag "off") 1
    else if on.any off.contains then refuse .contraryFlag 1
    else return some (on, off)

/-- What opens after a parenthesis. -/
inductive Opening
  /-- A group that keeps its text, with a name or without. -/
  | capture (name : Option String)
  /-- A group that keeps nothing, with flags turned on and off. -/
  | plain (on off : List Char)
  /-- A group of which only the first match is tried. -/
  | atomic
  /-- A condition on the text ahead or before. -/
  | look (backward negated : Bool)
  /-- A choice by whether a group has matched. -/
  | condition (index : Nat)
  /-- A finished part. -/
  | part (p : Part)
  /-- Nothing: a comment, or flags for the whole pattern. -/
  | nothing

/-- Reads the name of a group and checks it. -/
def groupName (terminator : Char) : Read String := do
  let n ← name terminator "group name"
  if Text.isIdentifier n.toList then return n else refuse (.badName n) (n.length + 1)

/-- A number that no group has. -/
def groupLimit : Nat := 1073741823

/-- Reads the group of a condition. -/
def readCondition : Read Opening := do
  let n ← name ')' "group name"
  let back := n.length + 1
  let s ← get
  let index ←
    if Text.isIdentifier n.toList then
      match s.names.lookup n with
      | some index => pure index
      | none => refuse (.unknownName n) back
    else
      match Decimal.readInteger? n.toList with
      | none => refuse (.badName n) back
      | some i =>
        let index := i.toNat
        if i < 0 then refuse (.badName n) back
        else if index == 0 then refuse .groupZero back
        else if index ≥ groupLimit then refuse (.noGroup index) back
        else
          if (s.conditions.lookup index).isNone then
            set { s with conditions := s.conditions ++ [(index, s.pos - back)] }
          pure index
  checkBehind index
  return .condition index

/-- Reads what follows an opening parenthesis and a question mark at `start`. -/
def readExtension (start : Nat) (atStart : Bool) : Read Opening := do
  match ← take with
  | none => refuse .unexpectedEnd 0
  | some (.char 'P') =>
    if ← accept '<' then return .capture (some (← groupName '>'))
    else if ← accept '=' then
      let n ← groupName ')'
      let s ← get
      match s.names.lookup n with
      | none => refuse (.unknownName n) (n.length + 1)
      | some index =>
        if !isClosed s index then refuse .openGroup (n.length + 1)
        else
          checkBehind index
          return .part (.plain, [.back s.flags.fold index])
    else
      match ← take with
      | none => refuse .unexpectedEnd 0
      | some t => refuse (.unknownExtension ("P" ++ t.text)) (t.text.length + 2)
  | some (.char ':') => return .plain [] []
  | some (.char '#') =>
    skipComment start ((← get).ahead.length + 1)
    return .nothing
  | some (.char '=') => return .look false false
  | some (.char '!') => return .look false true
  | some (.char '<') =>
    match ← take with
    | none => refuse .unexpectedEnd 0
    | some (.char '=') => return .look true false
    | some (.char '!') => return .look true true
    | some t => refuse (.unknownExtension ("<" ++ t.text)) (t.text.length + 2)
  | some (.char '(') => readCondition
  | some (.char '>') => return .atomic
  | some t =>
    match t with
    | .char c =>
      if isFlag c || c == '-' then
        match ← readFlags c with
        | none => if atStart then return .nothing else throw ⟨.lateFlags, some start⟩
        | some (on, off) => return .plain on off
      else refuse (.unknownExtension t.text) (t.text.length + 1)
    | _ => refuse (.unknownExtension t.text) (t.text.length + 1)

/-- Opens a group that keeps its text and gives its number. -/
def openGroup (name : Option String) : Read Nat := do
  let s ← get
  let index := s.groups.size
  match name with
  | none =>
    set { s with groups := s.groups.push none }
    return index
  | some n =>
    match s.names.lookup n with
    | some previous => refuse (.renamed n index previous) (n.length + 1)
    | none =>
      set { s with groups := s.groups.push none, names := (n, index) :: s.names }
      return index

/-- Takes the parenthesis that ends a group opened at `start`. -/
def closeGroup (start : Nat) : Read Unit := do
  if !(← accept ')') then throw ⟨.unterminatedGroup, some start⟩

/-- The steps of parts that were read last to first. -/
def ofParts (parts : List Part) : List Step := (parts.reverse.map (·.2)).flatten

end LabelTally.Pattern
