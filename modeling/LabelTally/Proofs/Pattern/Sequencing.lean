import LabelTally.Pattern.Run
import Mathlib

/-!
# Tries one after the other

A pattern is matched step by step, and what follows a step is tried from inside it. If that never
fails, it can as well be tried from outside: steps before it are matched as they are on their own,
and it goes on from where they end. This holds for steps of every kind, since none of them looks at
what comes after the first match.
-/

namespace LabelTally.Pattern

/-- Nothing that follows can fail. -/
def NeverFails (next : Next) : Prop := ∀ s pos, (next s pos).matched = true

/-- What follows, with `next` after it. -/
def followedBy (tail next : Next) : Next := fun s pos => (tail s pos).andThen next

section Combinators

variable {next : Next} {o : Outcome}

@[simp] theorem andThen_failed (s : State) (next : Next) :
    Outcome.andThen ⟨false, s⟩ next = ⟨false, s⟩ := rfl

@[simp] theorem andThen_failAt (pos : Nat) (s : State) (next : Next) :
    (failAt pos s).andThen next = failAt pos s := rfl

theorem andThen_ite (c : Prop) [Decidable c] (a b : Outcome) (next : Next) :
    (if c then a else b).andThen next = if c then a.andThen next else b.andThen next :=
  apply_ite (·.andThen next) c a b

theorem andThen_of_matched (h : o.matched = true) : o.andThen next = next o.state o.state.pos :=
  if_pos h

theorem andThen_of_failed (h : o.matched = false) : o.andThen next = o := by
  simp [Outcome.andThen, h]

theorem orElse_of_matched {other : State → Outcome} (h : o.matched = true) : o.orElse other = o :=
  if_pos h

theorem orElse_of_failed {other : State → Outcome} (h : o.matched = false) :
    o.orElse other = other o.state := by
  simp [Outcome.orElse, h]

/-- What never fails can be put after both of two tries. -/
theorem orElse_andThen (hnext : NeverFails next) (o : Outcome) (other : State → Outcome) :
    (o.orElse other).andThen next = (o.andThen next).orElse fun s => (other s).andThen next := by
  cases h : o.matched with
  | false => rw [orElse_of_failed h, andThen_of_failed h, orElse_of_failed h]
  | true => rw [orElse_of_matched h, andThen_of_matched h, orElse_of_matched (hnext _ _)]

theorem andThen_andThen (o : Outcome) (tail next : Next) :
    (o.andThen tail).andThen next = o.andThen (followedBy tail next) := by
  cases h : o.matched with
  | false => rw [andThen_of_failed h, andThen_of_failed h, andThen_of_failed h]
  | true => rw [andThen_of_matched h, andThen_of_matched h, followedBy]

end Combinators

section AndThen

variable {next : Next} (hnext : NeverFails next) (tail : Next) (text : Array Char)
include hnext

theorem tryAt_andThen (inLoop : Bool) (lead : Option Nat) (before : State) (pos : Nat)
    (s : State) :
    (tryAt text inLoop lead before tail pos s).andThen next =
      tryAt text inLoop lead before (followedBy tail next) pos s := by
  rw [tryAt, tryAt, andThen_ite, orElse_andThen hnext]
  rfl

theorem fewer_andThen (inLoop : Bool) (lead : Option Nat) (before : State) (base more : Nat)
    (s : State) :
    (fewer text inLoop lead before base tail more s).andThen next =
      fewer text inLoop lead before base (followedBy tail next) more s := by
  induction more generalizing s with
  | zero => exact tryAt_andThen hnext tail text inLoop lead before base s
  | succ more ih =>
    rw [fewer, fewer, orElse_andThen hnext, tryAt_andThen hnext]
    simp only [ih]

theorem further_andThen (inLoop : Bool) (c : Single) (before : State) (spare pos : Nat)
    (s : State) :
    (further text inLoop c before tail spare pos s).andThen next =
      further text inLoop c before (followedBy tail next) spare pos s := by
  induction spare generalizing pos s with
  | zero =>
    rw [further, further, orElse_andThen hnext]
    rfl
  | succ spare ih =>
    rw [further, further, orElse_andThen hnext]
    simp only [andThen_ite, ih, andThen_failed, followedBy]

theorem runSingle_andThen (inLoop : Bool) (lead : Option Nat) (greed : Greed) (least : Nat)
    (most : Option Nat) (c : Single) (s : State) (pos : Nat) :
    (runSingle text inLoop lead greed least most c s pos tail).andThen next =
      runSingle text inLoop lead greed least most c s pos (followedBy tail next) := by
  unfold runSingle
  simp only [andThen_ite, andThen_failed]
  cases greed with
  | greedy => simp only [fewer_andThen hnext]
  | lazy => simp only [further_andThen hnext]
  | possessive => rfl

theorem rounds_andThen {body : State → Nat → Next → Outcome}
    (hbody : ∀ tail s pos, (body s pos tail).andThen next = body s pos (followedBy tail next))
    (lazily inLoop : Bool) (least : Nat) (most : Option Nat) (fuel count : Nat) (last : Option Nat)
    (s : State) (pos : Nat) :
    (rounds body lazily inLoop least most tail fuel count last s pos).andThen next =
      rounds body lazily inLoop least most (followedBy tail next) fuel count last s pos := by
  induction fuel generalizing count last s pos with
  | zero => rfl
  | succ fuel ih =>
    have hround : ∀ count last, followedBy
        (rounds body lazily inLoop least most tail fuel count last) next =
          rounds body lazily inLoop least most (followedBy tail next) fuel count last :=
      fun count last => funext fun s => funext fun pos => ih count last s pos
    rw [rounds, rounds]
    simp only [andThen_ite, orElse_andThen hnext, hbody, hround, andThen_failed, andThen_failAt,
      followedBy]

end AndThen

mutual

/-- A step tries what follows it until that matches, so what never fails can be put after the
step. -/
theorem runStep_andThen {next : Next} (hnext : NeverFails next) (r : Resumption)
    (text : Array Char) (inLoop : Bool) :
    (step : Step) → ∀ (lead : Option Nat) (tail : Next) (s : State) (pos : Nat),
      (runStep r text inLoop lead step s pos tail).andThen next =
        runStep r text inLoop lead step s pos (followedBy tail next)
  | .one _, lead, tail, s, pos | .anchor _, lead, tail, s, pos => by
    rw [runStep, runStep, andThen_ite]
    rfl
  | .back fold index, lead, tail, s, pos => by
    rw [runStep, runStep]
    split
    · rfl
    · rw [andThen_ite]
      rfl
  | .group index body, lead, tail, s, pos => by
    rw [runStep, runStep]
    exact runSteps_andThen hnext r text inLoop body none _ _ pos
  | .scope body, lead, tail, s, pos => by
    rw [runStep, runStep]
    exact runSteps_andThen hnext r text inLoop body lead tail s pos
  | .atomic body, lead, tail, s, pos => by
    rw [runStep, runStep, andThen_andThen]
  | .look behind negated body, lead, tail, s, pos => by
    rw [runStep, runStep]
    simp only [andThen_ite, andThen_failed]
    split
    · rfl
    · split
      · rfl
      · split
        · rfl
        · rename_i hfailed
          rw [andThen_of_failed (by simpa using hfailed)]
  | .choose index yes no, lead, tail, s, pos => by
    rw [runStep, runStep, andThen_ite]
    simp only [runSteps_andThen hnext r text inLoop yes, runSteps_andThen hnext r text inLoop no]
  | .branch ways, lead, tail, s, pos => by
    rw [runStep, runStep]
    exact runWays_andThen hnext r text inLoop s ways tail s pos
  | .many greed least most body, lead, tail, s, pos => by
    have hround : ∀ inLoop tail s pos, (runSteps r text inLoop none body s pos tail).andThen next =
        runSteps r text inLoop none body s pos (followedBy tail next) :=
      fun inLoop tail s pos => runSteps_andThen hnext r text inLoop body none tail s pos
    rw [runStep, runStep]
    cases single? body with
    | some c => exact runSingle_andThen hnext tail text inLoop lead greed least most c s pos
    | none =>
      cases greed with
      | greedy => exact rounds_andThen hnext tail (hround true) _ _ _ _ _ _ _ _ _
      | lazy => exact rounds_andThen hnext tail (hround true) _ _ _ _ _ _ _ _ _
      | possessive =>
        -- The rounds are matched on their own, so only what follows the last one changes.
        rw [andThen_andThen]
        rfl

theorem runSteps_andThen {next : Next} (hnext : NeverFails next) (r : Resumption)
    (text : Array Char) (inLoop : Bool) :
    (steps : List Step) → ∀ (lead : Option Nat) (tail : Next) (s : State) (pos : Nat),
      (runSteps r text inLoop lead steps s pos tail).andThen next =
        runSteps r text inLoop lead steps s pos (followedBy tail next)
  | [], lead, tail, s, pos => by rw [runSteps, runSteps]; rfl
  | step :: rest, lead, tail, s, pos => by
    rw [runSteps, runSteps, runStep_andThen hnext r text inLoop step]
    congr 1
    funext s pos
    exact runSteps_andThen hnext r text inLoop rest lead tail s pos

theorem runWays_andThen {next : Next} (hnext : NeverFails next) (r : Resumption)
    (text : Array Char) (inLoop : Bool) (before : State) :
    (ways : List (List Step)) → ∀ (tail : Next) (s : State) (pos : Nat),
      (runWays r text inLoop before ways s pos tail).andThen next =
        runWays r text inLoop before ways s pos (followedBy tail next)
  | [], tail, s, pos => by rw [runWays, runWays]; rfl
  | way :: ways, tail, s, pos => by
    rw [runWays, runWays, andThen_ite, orElse_andThen hnext,
      runSteps_andThen hnext r text inLoop way]
    simp only [runWays_andThen hnext r text inLoop before ways]

end

/-- What never fails and does not ask which position the state has kept. -/
structure IsTotal (next : Next) : Prop where
  /-- It never fails. -/
  neverFails : NeverFails next
  /-- It takes the position it is given. -/
  moved : ∀ s pos, next { s with pos } pos = next s pos

/-- Steps before what never fails are matched as on their own. -/
theorem runSteps_eq_andThen {next : Next} (hnext : IsTotal next) (r : Resumption)
    (text : Array Char) (inLoop : Bool) (lead : Option Nat) (steps : List Step) (s : State)
    (pos : Nat) :
    runSteps r text inLoop lead steps s pos next =
      (runSteps r text inLoop lead steps s pos stop).andThen next := by
  have hstop : followedBy stop next = next := by
    funext s pos
    exact hnext.moved s pos
  rw [runSteps_andThen hnext.neverFails, hstop]

end LabelTally.Pattern
