import LabelTally.Pattern.Single

/-!
# Matching

A pattern is matched by trying its ways one after the other; what follows a step is passed to it as
a continuation, so the first way that leads to the end wins. The places where kept texts start and
end are marks of one state that all ways share. A way that fails leaves its marks behind: only their
number is taken back, and the marks themselves where the way is part of a repetition. A repetition
is not tried again at a position where its last round began, so matching ends. A possessive
repetition takes the first match of each round. After a round without one it goes on from where that
round began, or from where it stopped if the pattern asks for that.
-/

namespace LabelTally

/-- The character at a position is a word character. -/
def wordAt (text : Array Char) (ascii : Bool) (pos : Nat) : Bool :=
  match text[pos]? with
  | some c => CharKind.word.holds ascii c
  | none => false

/-- A condition holds at a position. A text without characters has no boundary and no place that is
not one. -/
def Anchor.holds (text : Array Char) (a : Anchor) (pos : Nat) : Bool :=
  let crossing (ascii : Bool) :=
    wordAt text ascii pos != (0 < pos && wordAt text ascii (pos - 1))
  match a with
  | .start => pos == 0
  | .lineStart => pos == 0 || text[pos - 1]? == some '\n'
  | .finish => pos == text.size || (pos + 1 == text.size && text[pos]? == some '\n')
  | .lineFinish => pos == text.size || text[pos]? == some '\n'
  | .textEnd => pos == text.size
  | .boundary ascii => text.size != 0 && crossing ascii
  | .notBoundary ascii => text.size != 0 && !crossing ascii

namespace Pattern

/-- The state that all ways of a match share. -/
structure State where
  /-- Where the last try stopped. -/
  pos : Nat
  /-- The marks: the start and the end of each kept text. -/
  marks : Array (Option Nat)
  /-- How many marks count, from the first on. -/
  valid : Nat
  deriving Repr, DecidableEq

/-- How a try has ended, and the state it leaves. -/
structure Outcome where
  /-- The try has matched. -/
  matched : Bool
  /-- The state. -/
  state : State
  deriving Repr, DecidableEq

/-- What is tried from a position on after a step has matched. -/
abbrev Next := State → Nat → Outcome

/-- The end of steps that are matched on their own. -/
def stop : Next := fun s pos => ⟨true, { s with pos }⟩

/-- A try, and another one after it if it fails. -/
def Outcome.orElse (o : Outcome) (other : State → Outcome) : Outcome :=
  if o.matched then o else other o.state

/-- A try, and what is tried after it if it matches. -/
def Outcome.andThen (o : Outcome) (next : Next) : Outcome :=
  if o.matched then next o.state o.state.pos else o

/-- A failed try that has stopped at a position. -/
def failAt (pos : Nat) (s : State) : Outcome := ⟨false, { s with pos }⟩

/-- Sets a mark. Marks that have been passed over do not count as set. -/
def State.mark (s : State) (i pos : Nat) : State :=
  if i < s.valid then { s with marks := s.marks.setIfInBounds i (some pos) }
  else
    let cleared := (List.range (i - s.valid)).foldl
      (fun marks k => marks.setIfInBounds (s.valid + k) none) s.marks
    { s with marks := cleared.setIfInBounds i (some pos), valid := i + 1 }

/-- The start and the end of a kept text. -/
def State.kept (s : State) (index : Nat) : Option (Nat × Nat) :=
  let i := 2 * (index - 1)
  if s.valid ≤ i + 1 then none
  else
    match s.marks[i]?.join, s.marks[i + 1]?.join with
    | some a, some b => if b < a then none else some (a, b)
    | _, _ => none

/-- A kept text ends before it starts. -/
def State.isCrossed (s : State) : Bool :=
  (List.range (s.valid / 2)).any fun k =>
    match s.marks[2 * k]?.join, s.marks[2 * k + 1]?.join with
    | some a, some b => b < a
    | _, _ => false

/-- The state after a failed try: the number of marks is as before, and so are the marks if `marks`
is set. -/
def State.undo (now before : State) (marks : Bool) : State :=
  { now with valid := before.valid, marks := if marks then before.marks else now.marks }

/-- The first step that takes a character or sets a condition, looking into scopes: none if there
are no steps at all, and an empty result if it is no single character. -/
def firstStep : List Step → Option (Option Single)
  | [] => none
  | .one s :: _ => some (some s)
  | .scope body :: rest =>
    match firstStep body with
    | none => firstStep rest
    | first => first
  | _ :: _ => some none

/-- The code that must come next if the steps start with a plain literal, `outer` being the one
after them. -/
def leadCode (steps : List Step) (outer : Option Nat) : Option Nat :=
  match firstStep steps with
  | none => outer
  | some first => first.bind Single.plainCode?

/-- Steps that are one single character. -/
def single? : List Step → Option Single
  | [.one s] => some s
  | [.scope body] => single? body
  | _ => none

/-- The way starts with a plain literal or class that the character at the position is not. -/
def isHopeless (text : Array Char) (pos : Nat) (way : List Step) : Bool :=
  match firstStep way with
  | some (some s) => s.isPlain && !(text[pos]?.any s.accepts)
  | _ => false

/-- How many characters from a position on are accepted, up to `most`. -/
def countAccepted (text : Array Char) (s : Single) : (most pos : Nat) → Nat
  | 0, _ => 0
  | most + 1, pos =>
    if text[pos]?.any s.accepts then countAccepted text s most (pos + 1) + 1 else 0

/-- A kept text occurs at a position. -/
def repeatsAt (text : Array Char) (fold : Fold) (start length pos : Nat) : Bool :=
  (List.range length).all fun i =>
    match text[start + i]?, text[pos + i]? with
    | some a, some b => fold.agrees a b
    | _, _ => false

/-- Tries what follows a repetition of a single character at a position, if the code `lead` that must
come next stands there. -/
def tryAt (text : Array Char) (inLoop : Bool) (lead : Option Nat) (before : State) (next : Next)
    (pos : Nat) (s : State) : Outcome :=
  if lead.all fun code => text[pos]?.any (·.toNat == code) then
    (next { s with pos } pos).orElse fun t => ⟨false, t.undo before inLoop⟩
  else ⟨false, s⟩

/-- Tries what follows a greedy repetition of a single character, with one character less each time.
The number counts the characters above the least number that are still taken. -/
def fewer (text : Array Char) (inLoop : Bool) (lead : Option Nat) (before : State) (base : Nat)
    (next : Next) : (more : Nat) → State → Outcome
  | 0, s => tryAt text inLoop lead before next base s
  | more + 1, s =>
    (tryAt text inLoop lead before next (base + (more + 1)) s).orElse
      (fewer text inLoop lead before base next more)

/-- Tries what follows a lazy repetition of a single character, with one character more each time.
`spare` bounds the characters that can still be taken. -/
def further (text : Array Char) (inLoop : Bool) (c : Single) (before : State) (next : Next) :
    (spare pos : Nat) → State → Outcome
  | 0, pos, s =>
    (next { s with pos } pos).orElse fun t =>
      let looked := c.isFoldedClass && text[pos]?.any c.accepts
      failAt (if looked then pos + 1 else pos) (t.undo before inLoop)
  | spare + 1, pos, s =>
    (next { s with pos } pos).orElse fun t =>
      let t := { t.undo before inLoop with pos }
      if text[pos]?.any c.accepts then further text inLoop c before next spare (pos + 1) t
      else ⟨false, t⟩

/-- A repetition of a single character. -/
def runSingle (text : Array Char) (inLoop : Bool) (lead : Option Nat) (greed : Greed) (least : Nat)
    (most : Option Nat) (c : Single) (s : State) (pos : Nat) (next : Next) : Outcome :=
  let room := text.size - pos
  if room < least then ⟨false, s⟩
  else
    let limit := match greed with
      | .lazy => least
      | _ => (most.map (min room)).getD room
    let count := countAccepted text c limit pos
    let s := { s with pos := if c.isFoldedClass && limit != 0 then pos + count else pos }
    if count < least then ⟨false, s⟩
    else
      match greed with
      | .greedy => fewer text inLoop lead s (pos + least) next (count - least) s
      | .lazy =>
        let spare := (most.map (min room)).getD room - least
        further text inLoop c s next spare (pos + least) s
      | .possessive => next { s with pos := pos + count } (pos + count)

/-- The rounds of a repetition. `body` matches one round, `count` is the number of rounds done,
`last` the position where the last optional round began, and `fuel` bounds the rounds that are left.
Few rounds are tried before many when `lazily` is set; then marks are taken back after a failed try
only if the repetition is part of another one. -/
def rounds (body : State → Nat → Next → Outcome) (lazily inLoop : Bool) (least : Nat)
    (most : Option Nat) (next : Next) : (fuel count : Nat) → (last : Option Nat) → Next
  | 0, _, _, s, pos => next s pos
  | fuel + 1, count, last, s, pos =>
    let s := { s with pos }
    let again (last : Option Nat) (s : State) :=
      body s pos (rounds body lazily inLoop least most next fuel (count + 1) last)
    let full := most.any (· ≤ count) || last == some pos
    if count < least then (again last s).orElse (failAt pos)
    else if lazily then
      (next s pos).orElse fun t =>
        let t := { t.undo s inLoop with pos }
        if full then ⟨false, t⟩ else (again (some pos) t).orElse (failAt pos)
    else
      (if full then ⟨false, s⟩ else again (some pos) s).orElse fun t =>
        (next { t.undo s true with pos } pos).orElse (failAt pos)

/-- The rounds that a possessive repetition must have; the state tells where the last one stopped.
-/
def neededRounds (body : State → Nat → Next → Outcome) : (least : Nat) → State → Outcome
  | 0, s => ⟨true, s⟩
  | least + 1, s => (body s s.pos stop).andThen fun s _ => neededRounds body least s

/-- The rounds that a possessive repetition may have besides; `fuel` bounds them. The marks are as
they were before the round that has failed. -/
def furtherRounds (resumption : Resumption) (body : State → Nat → Next → Outcome) : (fuel : Nat) →
    (last : Option Nat) → State → State
  | 0, _, s => s
  | fuel + 1, last, s =>
    if last == some s.pos then s
    else
      let round := body s s.pos stop
      if round.matched then furtherRounds resumption body fuel (some s.pos) round.state
      else
        match resumption with
        | .began => s
        | .stopped => { s with pos := round.state.pos }

mutual

/-- Matches a step at a position and goes on with `next`. `inLoop` holds inside a repetition, and
`lead` is the code that must come after the step. -/
def runStep (resumption : Resumption) (text : Array Char) (inLoop : Bool) (lead : Option Nat) :
    Step → State → Nat → Next → Outcome
  | .one c, s, pos, next => if text[pos]?.any c.accepts then next s (pos + 1) else ⟨false, s⟩
  | .anchor a, s, pos, next => if a.holds text pos then next s pos else ⟨false, s⟩
  | .back fold index, s, pos, next =>
    match s.kept index with
    | none => ⟨false, s⟩
    | some (a, b) =>
      if repeatsAt text fold a (b - a) pos then next s (pos + (b - a)) else ⟨false, s⟩
  | .group index body, s, pos, next =>
    let i := 2 * (index - 1)
    runSteps resumption text inLoop none body (s.mark i pos) pos fun s pos =>
      next (s.mark (i + 1) pos) pos
  | .scope body, s, pos, next => runSteps resumption text inLoop lead body s pos next
  | .atomic body, s, pos, next =>
    ((runSteps resumption text inLoop none body { s with pos } pos stop).orElse
      (failAt pos)).andThen next
  | .look behind negated body, s, pos, next =>
    let width := behind.getD 0
    if pos < width then if negated then next s pos else ⟨false, s⟩
    else
      let start := pos - width
      let inner := runSteps resumption text inLoop none body { s with pos := start } start stop
      if negated then
        if inner.matched then ⟨false, inner.state⟩
        else next (inner.state.undo s inLoop) pos
      else if inner.matched then next inner.state pos
      else inner
  | .choose index yes no, s, pos, next =>
    if (s.kept index).isSome then
      runSteps resumption text inLoop (if no.isEmpty then lead else none) yes s pos next
    else runSteps resumption text inLoop lead no s pos next
  | .branch ways, s, pos, next => runWays resumption text inLoop s ways s pos next
  | .many greed least most body, s, pos, next =>
    match single? body with
    | some c => runSingle text inLoop lead greed least most c s pos next
    | none =>
      let fuel := text.size - pos + 2
      match greed with
      | .greedy =>
        let round := fun s pos next => runSteps resumption text true none body s pos next
        rounds round false inLoop least most next (least + fuel) 0 none { s with pos } pos
      | .lazy =>
        let round := fun s pos next => runSteps resumption text true none body s pos next
        rounds round true inLoop least most next (least + fuel) 0 none { s with pos } pos
      | .possessive =>
        let round := fun s pos next => runSteps resumption text inLoop none body s pos next
        let spare := (most.map fun m => min (m - least) fuel).getD fuel
        ((neededRounds round least { s with pos }).orElse (failAt pos)).andThen fun s _ =>
          let s := furtherRounds resumption round spare none s
          next s s.pos

/-- Matches steps one after the other. -/
def runSteps (resumption : Resumption) (text : Array Char) (inLoop : Bool) (lead : Option Nat) :
    List Step → State → Nat → Next → Outcome
  | [], s, pos, next => next s pos
  | step :: rest, s, pos, next =>
    runStep resumption text inLoop (leadCode rest lead) step s pos fun s pos =>
      runSteps resumption text inLoop lead rest s pos next

/-- Tries ways in order, `before` being the state at their start. -/
def runWays (resumption : Resumption) (text : Array Char) (inLoop : Bool) (before : State) :
    List (List Step) → State → Nat → Next → Outcome
  | [], s, _, _ => ⟨false, s⟩
  | way :: ways, s, pos, next =>
    if isHopeless text pos way then runWays resumption text inLoop before ways s pos next
    else
      (runSteps resumption text inLoop none way { s with pos } pos next).orElse fun t =>
        runWays resumption text inLoop before ways (t.undo before inLoop) pos next

end

/-- The state at the start of a match. -/
def start (p : Pattern) (pos : Nat) : State := ⟨pos, Array.replicate (2 * p.groups) none, 0⟩

/-- Matches a pattern at a position and goes on with `next`. -/
def runAt (p : Pattern) (text : Array Char) (pos : Nat) (next : Next) : Outcome :=
  if text.size - pos < p.least then ⟨false, p.start pos⟩
  else runSteps p.resumption text false none p.steps (p.start pos) pos next

/-- Matches a pattern with the whole text. -/
def runAll (p : Pattern) (text : Array Char) : Outcome :=
  p.runAt text 0 fun s pos => if pos = text.size then stop s pos else ⟨false, s⟩

/-- The whole text matches. -/
def matchesAll (p : Pattern) (text : Array Char) : Bool := (p.runAll text).matched

/-- The whole text matches, and a kept text ends before it starts. A possessive repetition can leave
such marks, because the ways of its rounds do not take theirs back. -/
def isCrossedBy (p : Pattern) (text : Array Char) : Bool :=
  p.groups != 0 && (let o := p.runAll text; o.matched && o.state.isCrossed)

/-- The words for a kept text that ends before it starts. -/
def crossedMessage : String :=
  "The span of capturing group is wrong, please report a bug for the re module."

/-- The first match that starts at one of some positions. -/
def searchFrom (p : Pattern) (text : Array Char) : (starts : List Nat) → Option State
  | [] => none
  | i :: rest =>
    let o := p.runAt text i stop
    if o.matched then some o.state else searchFrom p text rest

/-- The first match anywhere in the text. -/
def search (p : Pattern) (text : Array Char) : Option State :=
  p.searchFrom text (List.range (text.size + 1))

end Pattern

end LabelTally
