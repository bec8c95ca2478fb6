import LabelTally.Pattern.Part
import LabelTally.Pattern.Ways

/-!
# Reading patterns

A written pattern is read as alternatives of sequences of parts. Every refusal names the place it
concerns. What concerns the pattern as a whole is checked when all of it has been read.
-/

namespace LabelTally.Pattern

mutual

/-- Reads alternatives up to the end of their group; `top` holds for the whole pattern, and `first`
for its first alternative. -/
def readAlternatives (top first : Bool) : (fuel : Nat) → Read (List (List Step))
  | 0 => return []
  | fuel + 1 => do
    let way := ofParts (← readParts (top && first) [] fuel)
    if ← accept '|' then return way :: (← readAlternatives top false fuel) else return [way]

/-- Reads the body of a group. -/
def readBody : (fuel : Nat) → Read (List Step)
  | 0 => return []
  | fuel + 1 => do
    let ways ← readAlternatives false false fuel
    return joinWays (← get).flags.fold ways

/-- Reads the parts of a sequence, `parts` being those before, last first. -/
def readParts (top : Bool) (parts : List Part) : (fuel : Nat) → Read (List Part)
  | 0 => return parts
  | fuel + 1 => do
    match ← peek with
    | none => return parts
    | some t =>
      if t == .char '|' || t == .char ')' then return parts
      else
        let start := (← get).pos
        let _ ← take
        let flags := (← get).flags
        match t with
        | .dangling => return parts
        | .escape c => readParts top ((← readEscape c).part flags :: parts) fuel
        | .char c =>
          if flags.verbose && (c == ' ' || (9 ≤ c.toNat && c.toNat ≤ 13)) then
            readParts top parts fuel
          else if flags.verbose && c == '#' then
            skipLine ((← get).ahead.length + 1)
            readParts top parts fuel
          else if c == '[' then readParts top ((.plain, [.one (← readClass)]) :: parts) fuel
          else if c == '*' || c == '+' || c == '?' || c == '\x7b' then
            readParts top (← readRepetition c parts) fuel
          else if c == '.' then
            let s := if flags.dotAll then Single.any else .inLine
            readParts top ((.plain, [.one s]) :: parts) fuel
          else if c == '^' then
            let a := if flags.multiline then Anchor.lineStart else .start
            readParts top ((.anchor, [.anchor a]) :: parts) fuel
          else if c == '$' then
            let a := if flags.multiline then Anchor.lineFinish else .finish
            readParts top ((.anchor, [.anchor a]) :: parts) fuel
          else if c == '(' then
            let opening ←
              if ← accept '?' then readExtension start (top && parts.isEmpty)
              else pure (.capture none)
            match ← readGroup start opening fuel with
            | some p => readParts top (p :: parts) fuel
            | none => readParts top parts fuel
          else readParts top (literalPart flags c.toNat :: parts) fuel

/-- Reads a group after its opening. -/
def readGroup (start : Nat) (opening : Opening) : (fuel : Nat) → Read (Option Part)
  | 0 => return none
  | fuel + 1 => do
    match opening with
    | .nothing => return none
    | .part p => return some p
    | .capture name =>
      let index ← openGroup name
      let body ← readBody fuel
      closeGroup start
      modify fun s =>
        { s with groups := s.groups.setIfInBounds index (some (width s.groups body)) }
      return some (.plain, [.group index body])
    | .plain on off =>
      let outer := (← get).flags
      modify fun s => { s with flags := s.flags.change on off }
      let body ← readBody fuel
      closeGroup start
      modify fun s => { s with flags := outer }
      return some (.plain, if on.isEmpty && off.isEmpty then body else [.scope body])
    | .atomic =>
      let body ← readBody fuel
      closeGroup start
      return some (.plain, [.atomic body])
    | .look backward negated =>
      let outer := (← get).behind
      if backward && outer.isNone then modify fun s => { s with behind := some s.groups.size }
      let body ← readBody fuel
      if backward then modify fun s => { s with behind := outer }
      closeGroup start
      let groups := (← get).groups
      let behind := if backward then some (width groups body).least else none
      return some (.plain, [.look behind negated body])
    | .condition index =>
      let yes := ofParts (← readParts false [] fuel)
      let no ←
        if ← accept '|' then do
          let no ← readParts false [] fuel
          if (← peek) == some (.char '|') then refuse .thirdBranch 0
          else pure (ofParts no)
        else pure []
      closeGroup start
      return some (.plain, [.choose index yes no])

end

/-- The farthest that a condition on the text before may reach. -/
def reachLimit : Nat := 4294967295

mutual

/-- What keeps a step from being carried out; a template may hold no repetitions. -/
def stepProblem (groups : Array (Option Width)) (template : Bool) : Step → Option Problem
  | .one _ | .anchor _ | .back _ _ => none
  | .group _ body | .scope body | .atomic body => stepsProblem groups template body
  | .look behind _ body =>
    let w := width groups body
    if behind.isSome && w.least > reachLimit then some .farBehind
    else if behind.isSome && w.least != w.most then some .variableBehind
    else stepsProblem groups template body
  | .choose _ yes no =>
    (stepsProblem groups template yes).or (stepsProblem groups template no)
  | .branch ways => waysProblem groups template ways
  | .many greed _ _ body =>
    if template then some (.templateRepeat greed) else stepsProblem groups template body

/-- What keeps steps from being carried out. -/
def stepsProblem (groups : Array (Option Width)) (template : Bool) : List Step → Option Problem
  | [] => none
  | step :: rest =>
    (stepProblem groups template step).or (stepsProblem groups template rest)

/-- What keeps ways from being carried out. -/
def waysProblem (groups : Array (Option Width)) (template : Bool) :
    List (List Step) → Option Problem
  | [] => none
  | way :: ways => (stepsProblem groups template way).or (waysProblem groups template ways)

end

/-- Reads a whole pattern and checks what can be checked only at its end. -/
def readWhole : Read Pattern := do
  let s ← get
  checkAhead s
  let ways ← readAlternatives true true (4 * s.size + 8)
  let s ← get
  let steps := joinWays s.flags.fold ways
  if s.globals.contains 'a' && s.globals.contains 'u' then throw ⟨.flagClash, none⟩
  else if (← peek).isSome then refuse .unbalanced 0
  else
    match s.conditions.find? fun c => s.groups.size ≤ c.1 with
    | some (index, pos) => throw ⟨.noGroup index, some pos⟩
    | none =>
      match stepsProblem s.groups (s.globals.contains 't') steps with
      | some problem => throw ⟨problem, none⟩
      | none => return { steps, groups := s.groups.size - 1, least := (width s.groups steps).least }

/-- The pattern that a text describes. -/
def parse (pattern : String) : Except Fault Pattern :=
  let cs := pattern.toList
  (readWhole.run { ahead := tokens cs, pos := 0, size := cs.length }).map (·.1)

-- Only one character says how a repetition tries its rounds; a second one repeats the repetition.
example : parse "a+?+" = .error ⟨.multipleRepeat, some 3⟩ := by cbv

end LabelTally.Pattern
