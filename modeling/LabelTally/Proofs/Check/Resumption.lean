import LabelTally.Check.Rules
import Mathlib

/-!
# When the rule for failed rounds matters

After a possessive round that fails, releases of the matcher go on from different places. Only
possessive repetitions with rounds of more than a single character can tell: a label pattern without
them gives the same report by both rules, and breaks a check off for the same labels.
-/

namespace LabelTally.Pattern

mutual

/-- No possessive repetition inside the step has rounds of more than a single character. -/
def Step.isSteady : Step → Bool
  | .one _ | .anchor _ | .back _ _ => true
  | .group _ body | .scope body | .atomic body | .look _ _ body => areSteady body
  | .choose _ yes no => areSteady yes && areSteady no
  | .branch ways => waysAreSteady ways
  | .many greed _ _ body => (single? body).isSome || (greed != .possessive && areSteady body)

/-- No possessive repetition inside steps has rounds of more than a single character. -/
def areSteady : List Step → Bool
  | [] => true
  | step :: rest => step.isSteady && areSteady rest

/-- No possessive repetition inside ways has rounds of more than a single character. -/
def waysAreSteady : List (List Step) → Bool
  | [] => true
  | way :: ways => areSteady way && waysAreSteady ways

end

mutual

/-- Only the rounds of a possessive repetition ask for the rule, and a steady step has none. -/
theorem runStep_of_isSteady (r r' : Resumption) (text : Array Char) :
    (step : Step) → step.isSteady = true → ∀ (inLoop : Bool) (lead : Option Nat),
      runStep r text inLoop lead step = runStep r' text inLoop lead step
  | .one _, _, inLoop, lead | .anchor _, _, inLoop, lead | .back _ _, _, inLoop, lead => by
    funext s pos next
    rw [runStep, runStep]
  | .group _ body, h, inLoop, lead | .scope body, h, inLoop, lead
  | .atomic body, h, inLoop, lead | .look _ _ body, h, inLoop, lead => by
    have hbody := runSteps_of_areSteady r r' text body (by simpa [Step.isSteady] using h)
    funext s pos next
    simp only [runStep, hbody]
  | .choose index yes no, h, inLoop, lead => by
    have hboth : areSteady yes = true ∧ areSteady no = true := by simpa [Step.isSteady] using h
    funext s pos next
    simp only [runStep, runSteps_of_areSteady r r' text yes hboth.1,
      runSteps_of_areSteady r r' text no hboth.2]
  | .branch ways, h, inLoop, lead => by
    funext s pos next
    simp only [runStep, runWays_of_areSteady r r' text ways (by simpa [Step.isSteady] using h)]
  | .many greed least most body, h, inLoop, lead => by
    funext s pos next
    cases hsingle : single? body with
    | some c =>
      -- A single character that is not accepted fails where it began.
      simp only [runStep, hsingle]
    | none =>
      have hboth : greed ≠ .possessive ∧ areSteady body = true := by
        simpa [Step.isSteady, hsingle] using h
      simp only [runStep, hsingle, runSteps_of_areSteady r r' text body hboth.2]
      cases greed with
      | possessive => exact absurd rfl hboth.1
      | greedy => rfl
      | lazy => rfl

theorem runSteps_of_areSteady (r r' : Resumption) (text : Array Char) :
    (steps : List Step) → areSteady steps = true → ∀ (inLoop : Bool) (lead : Option Nat),
      runSteps r text inLoop lead steps = runSteps r' text inLoop lead steps
  | [], _, inLoop, lead => by
    funext s pos next
    rw [runSteps, runSteps]
  | step :: rest, h, inLoop, lead => by
    have hboth : step.isSteady = true ∧ areSteady rest = true := by simpa [areSteady] using h
    funext s pos next
    simp only [runSteps, runStep_of_isSteady r r' text step hboth.1,
      runSteps_of_areSteady r r' text rest hboth.2]

theorem runWays_of_areSteady (r r' : Resumption) (text : Array Char) :
    (ways : List (List Step)) → waysAreSteady ways = true → ∀ (inLoop : Bool) (before : State),
      runWays r text inLoop before ways = runWays r' text inLoop before ways
  | [], _, inLoop, before => by
    funext s pos next
    rw [runWays, runWays]
  | way :: ways, h, inLoop, before => by
    have hboth : areSteady way = true ∧ waysAreSteady ways = true := by
      simpa [waysAreSteady] using h
    funext s pos next
    simp only [runWays, runSteps_of_areSteady r r' text way hboth.1,
      runWays_of_areSteady r r' text ways hboth.2]

end

/-- A pattern without such repetitions is run alike by both rules. -/
theorem runAll_resuming {p : Pattern} (h : areSteady p.steps = true) (r : Resumption)
    (text : Array Char) : runAll { p with resumption := r } text = p.runAll text := by
  rw [runAll, runAll, runAt, runAt, runSteps_of_areSteady r p.resumption text p.steps h]
  rfl

end LabelTally.Pattern

namespace LabelTally.Check

theorem LabelPattern.accepts_resuming {p : LabelPattern}
    (h : Pattern.areSteady p.pattern.steps = true) (r : Resumption) (label : String) :
    (p.resuming r).accepts label = p.accepts label := by
  simp only [accepts, resuming, Pattern.matchesAll, Pattern.runAll_resuming h]

theorem LabelPattern.isCrossedBy_resuming {p : LabelPattern}
    (h : Pattern.areSteady p.pattern.steps = true) (r : Resumption) (label : String) :
    (p.resuming r).isCrossedBy label = p.isCrossedBy label := by
  simp only [isCrossedBy, resuming, Pattern.isCrossedBy, Pattern.runAll_resuming h]

/-- With a label pattern of this kind, and with none, a check comes out the same by both rules. -/
theorem run_resuming {o : Options}
    (h : ∀ p, o.labelPattern = some p → Pattern.areSteady p.pattern.steps = true) (r : Resumption)
    (c : Collection) :
    run (o.resuming r) c = run o c ∧ breaksOff (o.resuming r) c = breaksOff o c := by
  have hstyle : styleFindings (o.resuming r) c = styleFindings o c := by
    unfold styleFindings
    cases hp : o.labelPattern with
    | none => simp [Options.resuming, hp]
    | some p =>
      have hfinding : patternFinding (p.resuming r) = patternFinding p := by
        funext m
        rw [patternFinding, patternFinding, LabelPattern.accepts_resuming (h p hp)]
        rfl
      simp [Options.resuming, hp, hfinding]
  have hrun : run (o.resuming r) c = run o c := by
    unfold run
    rw [hstyle]
    rfl
  refine ⟨hrun, ?_⟩
  unfold breaksOff
  rw [hrun]
  cases hp : o.labelPattern with
  | none => simp [Options.resuming, hp]
  | some p => simp [Options.resuming, hp, LabelPattern.isCrossedBy_resuming (h p hp)]

end LabelTally.Check
